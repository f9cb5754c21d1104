import FileShare.Entries
import FileShare.Number
import FileShare.RawText

/-! # JSON values

A text has a UTF-8 form or a surrogate outside a pair; in a value the two stand apart, because most
of the program works on the former alone. An object keeps its entries in order. Values that were
read hold every name once.
-/
namespace FileShare

inductive Json where
  | null
  | bool (b : Bool)
  | num (n : Number)
  | str (s : String)
  | unpaired (before : String) (half : Surrogate) (after : RawText)
  | arr (items : List Json)
  | obj (entries : List (RawText × Json))
deriving Repr, Inhabited, BEq

abbrev Json.Object := List (RawText × Json)

namespace Json

def int (n : Int) : Json := .num (.int n)

def float (x : Binary64) : Json := .num (.float x)

def ofOption (f : α → Json) : Option α → Json
  | some a => f a
  | none => .null

def ofText : RawText → Json
  | .text s => .str s
  | .unpaired before half after => .unpaired before half after

def text? : Json → Option RawText
  | .str s => some s
  | .unpaired before half after => some (.unpaired before half after)
  | _ => none

theorem text?_eq_some {v : Json} {t : RawText} : v.text? = some t ↔ v = .ofText t := by
  cases v <;> cases t <;> simp [text?, ofText]

@[simp] theorem text?_ofText (t : RawText) : (Json.ofText t).text? = some t :=
  text?_eq_some.mpr rfl

theorem ofText_inj {s t : RawText} : ofText s = ofText t ↔ s = t := by
  rw [← text?_eq_some, text?_ofText, Option.some.injEq]

def strings (ss : List String) : Json := .arr (ss.map .str)

theorem strings_eq (ss : List String) : strings ss = .arr ((ss.map RawText.text).map ofText) := by
  rw [List.map_map]
  rfl

/-- The value of a name, where an absent name reads as null. -/
def Object.get (o : Object) (name : String) : Json := (Entries.get? o name).getD .null

/-- The number that a value counts as among others; truth values count as one and zero. -/
def number? : Json → Option Number
  | .bool b => some (.int b.toNat)
  | .num n => some n
  | _ => none

/-- Values of which a set holds only one; a container is no member of a set. -/
def sameMember : Json → Json → Bool
  | .null, .null => true
  | .str s, .str t => s == t
  | .unpaired b h a, .unpaired b' h' a' => b == b' && h == h' && a == a'
  | v, w =>
    match v.number?, w.number? with
    | some m, some n => m.equals n
    | _, _ => false

end Json
end FileShare

import FileShare.Text.CodePoint
import FileShare.Text.LowerCase
import FileShare.Text.Split

/-! # Texts as clients spell them

Escapes can spell any row of code points, so a text that was read may hold surrogates outside pairs.
It is a text in the narrow sense, with a UTF-8 form, or such a text, a surrogate and what follows.
-/
namespace FileShare

inductive RawText where
  | text (s : String)
  | unpaired (before : String) (half : Surrogate) (after : RawText)
deriving DecidableEq, Repr, Inhabited

instance : Coe String RawText := ⟨.text⟩

namespace RawText

/-- The text itself where it has a UTF-8 form. -/
def utf8? : RawText → Option String
  | text s => some s
  | unpaired .. => none

/-- The number of code points. -/
def length : RawText → Nat
  | text s => s.length
  | unpaired before _ after => before.length + 1 + after.length

def points : RawText → List CodePoint
  | text s => s.toList.map .char
  | unpaired before half after => before.toList.map .char ++ .surrogate half :: points after

/-- The text of some code points; the characters in front of them come last first. -/
def ofPointsAfter (before : List Char) : List CodePoint → RawText
  | [] => text (String.ofList before.reverse)
  | .char c :: rest => ofPointsAfter (c :: before) rest
  | .surrogate half :: rest =>
    unpaired (String.ofList before.reverse) half (ofPointsAfter [] rest)

def ofPoints (points : List CodePoint) : RawText := ofPointsAfter [] points

theorem points_ofPointsAfter (before : List Char) (points : List CodePoint) :
    (ofPointsAfter before points).points = before.reverse.map .char ++ points := by
  induction points generalizing before with
  | nil => simp [ofPointsAfter, RawText.points]
  | cons p points ih => cases p <;> simp [ofPointsAfter, RawText.points, ih]

@[simp] theorem points_ofPoints (points : List CodePoint) : (ofPoints points).points = points :=
  points_ofPointsAfter [] points

theorem ofPointsAfter_chars (before cs : List Char) (rest : List CodePoint) :
    ofPointsAfter before (cs.map .char ++ rest) = ofPointsAfter (cs.reverse ++ before) rest := by
  induction cs generalizing before with
  | nil => rfl
  | cons c cs ih => simpa [ofPointsAfter] using ih (c :: before)

@[simp] theorem ofPoints_points (t : RawText) : ofPoints t.points = t := by
  unfold ofPoints
  induction t with
  | text s => simpa [RawText.points, ofPointsAfter] using ofPointsAfter_chars [] s.toList []
  | unpaired before half after ih => simp [RawText.points, ofPointsAfter_chars, ofPointsAfter, ih]

def append : RawText → RawText → RawText
  | text s, text t => text (s ++ t)
  | text s, unpaired before half after => unpaired (s ++ before) half after
  | unpaired before half after, t => unpaired before half (append after t)

instance : Append RawText := ⟨append⟩

def take (n : Nat) (t : RawText) : RawText := ofPoints (t.points.take n)

/-- Lower case. No letter looks past a surrogate for its form. -/
def lower : RawText → RawText
  | text s => text (Text.lower s)
  | unpaired before half after => unpaired (Text.lower before) half (lower after)

def rest? (word : String) : RawText → Option RawText
  | text s => (Text.rest? word s).map text
  | unpaired before half after => (Text.rest? word before).map fun b => unpaired b half after

end RawText
end FileShare

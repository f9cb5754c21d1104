import FileShare.Text.CaseMap
import FileShare.Text.CaseContext

/-! # Lower case of texts

Full lower-casing: every character goes to its lower-case form, except that a dotted capital I
becomes two characters and a capital sigma at the end of a word takes its final form.
-/
namespace FileShare.Text

def lowerChar (c : Char) : Char := Char.ofNat (lowerCode c.toNat)

/-- A cased letter follows, perhaps after skipped characters. -/
def casedFollows : List Char → Bool
  | [] => false
  | c :: rest => if isCaseIgnorable c then casedFollows rest else isCased c

/-- `before` holds the characters before the sigma, nearest first. -/
def sigmaForm (before after : List Char) : Char :=
  if casedFollows before && !casedFollows after then 'ς' else 'σ'

/-- Lower case of the second list, where the first holds what stands before it, nearest first. -/
def lowerFrom : List Char → List Char → List Char
  | _, [] => []
  | before, c :: rest =>
    let here :=
      if c = 'Σ' then [sigmaForm before rest]
      else if c = 'İ' then ['i', '\u0307']
      else [lowerChar c]
    here ++ lowerFrom (c :: before) rest

def lower (s : String) : String := String.ofList (lowerFrom [] s.toList)

end FileShare.Text

import FileShare.Pattern.CaseEquivalence
import FileShare.Text.Category

/-! # Sets of characters in patterns

When case is ignored the character is looked up by its lower-case form. Members up to the code point
`0xffff` stand for all characters that differ from them in case only; members above it are
compared as they are written, and ranges that reach above it also with the upper-case form.
-/
namespace FileShare.Pattern

/-- The code points up to which members are widened to all case forms. -/
def basicPlaneEnd : Nat := 0xffff

def isAsciiBlank (n : Nat) : Bool := n == 0x20 || (0x09 ≤ n && n ≤ 0x0d)

def isAsciiDigit (n : Nat) : Bool := 0x30 ≤ n && n ≤ 0x39

def isAsciiWord (n : Nat) : Bool :=
  isAsciiDigit n || (0x41 ≤ n && n ≤ 0x5a) || (0x61 ≤ n && n ≤ 0x7a) || n == 0x5f

def Category.holds (o : Options) (k : Category) (n : Nat) : Bool :=
  if o.unicode then
    match k with
    | digit => Text.isDigit (Char.ofNat n)
    | blank => Text.isBlank (Char.ofNat n)
    | word => Text.isWord (Char.ofNat n)
  else
    match k with
    | digit => isAsciiDigit n
    | blank => isAsciiBlank n
    | word => isAsciiWord n

/-- The code points whose case forms include the lower-case form `y`. -/
def relatives (o : Options) (y : Nat) : List Nat :=
  foldSources o y ++ (foldSiblings o y).flatMap (foldSources o)

def SetItem.holds (o : Options) (x : Nat) : SetItem → Bool
  | char c =>
    if !o.ignoreCase then c == x
    else if c ≤ basicPlaneEnd then sameChar o c x
    else foldCode o x == c
  | range first last =>
    if !o.ignoreCase then first ≤ x && x ≤ last
    else
      let y := foldCode o x
      let inside (n : Nat) : Bool := first ≤ n && n ≤ last
      ((relatives o y).any fun n => inside n && n ≤ basicPlaneEnd) ||
        (basicPlaneEnd < last && (inside y || inside (Text.upperCode y)))
  | category negated k =>
    k.holds o (if o.ignoreCase then foldCode o x else x) != negated

def holdsSet (o : Options) (negated : Bool) (items : List SetItem) (x : Nat) : Bool :=
  items.any (·.holds o x) != negated

end FileShare.Pattern

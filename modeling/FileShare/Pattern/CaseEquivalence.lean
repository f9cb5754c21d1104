import FileShare.Text.CaseMap
import FileShare.Pattern.Syntax

/-! # Characters that differ in case only

Two characters match when their lower-case forms are equal or are two lower-case forms of one
upper-case letter. The latter are listed; Unicode 14.0 has no others.
-/
namespace FileShare.Pattern

/-- Lower-case letters that share an upper-case letter. -/
def sharedUpper : List (List Nat) :=
  [[0x69, 0x131], [0x73, 0x17f], [0xb5, 0x3bc], [0x345, 0x3b9, 0x1fbe], [0x390, 0x1fd3],
   [0x3b0, 0x1fe3], [0x3b2, 0x3d0], [0x3b5, 0x3f5], [0x3b8, 0x3d1], [0x3ba, 0x3f0],
   [0x3c0, 0x3d6], [0x3c1, 0x3f1], [0x3c2, 0x3c3], [0x3c6, 0x3d5], [0x432, 0x1c80],
   [0x434, 0x1c81], [0x43e, 0x1c82], [0x441, 0x1c83], [0x442, 0x1c84, 0x1c85], [0x44a, 0x1c86],
   [0x463, 0x1c87], [0x1c88, 0xa64b], [0x1e61, 0x1e9b], [0xfb05, 0xfb06]]

/-- The other lower-case letters with the same upper-case letter. -/
def siblings (n : Nat) : List Nat :=
  match sharedUpper.find? (·.contains n) with
  | some family => family.filter (· ≠ n)
  | none => []

def asciiLowerCode (n : Nat) : Nat := if 0x41 ≤ n ∧ n ≤ 0x5a then n + 0x20 else n

/-- The lower-case form under the alphabet that the options choose. -/
def foldCode (o : Options) (n : Nat) : Nat :=
  if o.unicode then Text.lowerCode n else asciiLowerCode n

def foldSiblings (o : Options) (n : Nat) : List Nat := if o.unicode then siblings n else []

/-- The code points whose lower-case form is `n`. -/
def foldSources (o : Options) (n : Nat) : List Nat :=
  if o.unicode then Text.lowerSources n
  else if 0x61 ≤ n ∧ n ≤ 0x7a then [n, n - 0x20]
  else if 0x41 ≤ n ∧ n ≤ 0x5a then []
  else [n]

def sameChar (o : Options) (c x : Nat) : Bool :=
  if o.ignoreCase then
    let f := foldCode o c
    let y := foldCode o x
    f == y || (foldSiblings o f).contains y
  else c == x

end FileShare.Pattern

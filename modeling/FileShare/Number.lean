import FileShare.Number.Decimal

/-! # Numbers: unbounded integers and binary64 words

The two kinds stay apart, as data keeps `28` and `28.0` apart, but they compare by value.
-/
namespace FileShare

inductive Number where
  | int (n : Int)
  | float (x : Binary64)
deriving DecidableEq, Repr, Inhabited

namespace Number

def isFinite : Number → Bool
  | int _ => true
  | float x => x.isFinite

/-- The order of an integer relative to a number. -/
def compareInt? (n : Int) : Number → Option Ordering
  | int m => some (compare n m)
  | float x => Binary64.compareInt? n x

/-- Equality by value, also between an integer and a word. -/
def equals : Number → Number → Bool
  | int n, v => compareInt? n v == some .eq
  | v, int n => compareInt? n v == some .eq
  | float x, float y => x.equals y

def isPositive (v : Number) : Bool := compareInt? 0 v == some .lt

end Number
end FileShare

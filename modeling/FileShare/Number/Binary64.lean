import FileShare.Text.Hex

/-! # IEEE 754 binary64 words

A word is kept as its 64 bits. A finite word is an integer significand times a power of
two, so comparison with integers and rounding from a quotient are exact integer arithmetic.
No machine floating point is involved.
-/
namespace FileShare

structure Binary64 where
  bits : UInt64
deriving DecidableEq, Repr, Inhabited

namespace Binary64

def signBit : Nat := 0x8000000000000000

/-- The value of the bit that normal words have and do not store. -/
def leadingBit : Nat := 0x10000000000000

def negative (x : Binary64) : Bool := signBit ≤ x.bits.toNat

def exponentField (x : Binary64) : Nat := x.bits.toNat / leadingBit % 2048

def fraction (x : Binary64) : Nat := x.bits.toNat % leadingBit

def isFinite (x : Binary64) : Bool := x.exponentField ≠ 2047

def isNaN (x : Binary64) : Bool := x.exponentField == 2047 && x.fraction != 0

def nan : Binary64 := ⟨0x7ff8000000000000⟩

def zero (neg : Bool) : Binary64 := if neg then ⟨0x8000000000000000⟩ else ⟨0⟩

def infinity (neg : Bool) : Binary64 :=
  if neg then ⟨0xfff0000000000000⟩ else ⟨0x7ff0000000000000⟩

/-- The integer factor of a finite word; subnormal words lack the leading bit. -/
def significand (x : Binary64) : Nat :=
  if x.exponentField = 0 then x.fraction else x.fraction + leadingBit

/-- The power of two that scales the significand. -/
def exponent (x : Binary64) : Int := (max x.exponentField 1 : Nat) - 1075

/-- A finite word is `numerator / denominator`. -/
def numerator (x : Binary64) : Int :=
  let m : Int := (x.significand * Nat.pow 2 x.exponent.toNat : Nat)
  if x.negative then -m else m

def denominator (x : Binary64) : Nat := Nat.pow 2 (-x.exponent).toNat

/-- The integer part, cut toward zero. -/
def truncate (x : Binary64) : Int := x.numerator.tdiv x.denominator

/-- The order of an integer relative to a word, by value; nothing compares with NaN. -/
def compareInt? (n : Int) (x : Binary64) : Option Ordering :=
  if x.isNaN then none
  else if x.isFinite then some (compare (n * x.denominator) x.numerator)
  else some (if x.negative then .gt else .lt)

/-- Equality by value: the two zeros are equal, and nothing equals NaN. -/
def equals (x y : Binary64) : Bool :=
  !x.isNaN && (x == y || x.significand == 0 && y.significand == 0)

/-- The nearest integer to `num / den`, a half going to the even neighbour. -/
def roundHalfEven (num den : Nat) : Nat :=
  let q := num / den
  let r := num % den
  if 2 * r < den then q
  else if den < 2 * r then q + 1
  else if q % 2 = 0 then q else q + 1

/-- The word nearest to `num / den`, a half going to the even significand. -/
def ofRatio (neg : Bool) (num den : Nat) : Binary64 :=
  if num = 0 ∨ den = 0 then zero neg
  else
    -- the exponent for which the quotient has 53 bits, found from the bit lengths
    let guess : Int := (Nat.log2 num : Int) - (Nat.log2 den : Int) - 52
    let scaled (e : Int) : Nat × Nat := (num * Nat.pow 2 (-e).toNat, den * Nat.pow 2 e.toNat)
    let tight : Int :=
      let (n, d) := scaled guess
      if n < d * leadingBit then guess - 1 else guess
    let e : Int := max tight (-1074)
    let (n, d) := scaled e
    let q := roundHalfEven n d
    let word := (e + 1074).toNat * leadingBit + q
    if 2047 * leadingBit ≤ word then infinity neg
    else ⟨UInt64.ofNat (word + if neg then signBit else 0)⟩

def ofIntRatio (num : Int) (den : Nat) : Binary64 := ofRatio (num < 0) num.natAbs den

/-- The product of a finite word and an integer, rounded to a word. -/
def mulInt (x : Binary64) (n : Int) : Binary64 := ofIntRatio (x.numerator * n) x.denominator

/-- The sixteen hexadecimal digits of the bits, most significant first. -/
def hex (x : Binary64) : String := String.ofList (Text.hexDigits 16 x.bits.toNat)

end Binary64
end FileShare

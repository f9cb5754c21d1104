import FileShare.Number.Binary64

/-! # Decimal text of binary64 words

`ofDecimal` rounds a decimal numeral to the nearest word. `shortest` is the inverse direction:
the least number of digits that reads back to the same word, and of those the nearest.
-/
namespace FileShare.Binary64

/-- The word nearest to `digits · 10 ^ exponent`. The exponent is cut to the range in which
the result is neither zero nor infinite, so that a huge exponent costs nothing. -/
def ofDecimal (neg : Bool) (digits : Nat) (exponent : Int) : Binary64 :=
  let places : Int := (Nat.toDigits 10 digits).length
  if digits = 0 then zero neg
  else if 400 < exponent + places then infinity neg
  else if exponent + places < -400 then zero neg
  else ofRatio neg (digits * Nat.pow 10 exponent.toNat) (Nat.pow 10 (-exponent).toNat)

/-- A decimal numeral `digits · 10 ^ exponent`. -/
structure Decimal where
  digits : Nat
  exponent : Int
deriving DecidableEq, Repr

/-- The largest `k` with `10 ^ k ≤ num / den`. -/
def decimalLog (num den : Nat) : Int :=
  if den ≤ num then ((Nat.toDigits 10 (num / den)).length : Int) - 1
  else
    let j := (Nat.toDigits 10 (den / num)).length
    -- den / num has j digits, so the answer is -j or, for an exact power, one more
    if den ≤ num * Nat.pow 10 (j - 1) then -((j : Int) - 1) else -(j : Int)

/-- On the grid of step `10 ^ p`, the nearest point to `num / den` that reads back; of two points
that are equally near, the even one. -/
def gridPoint? (x : Binary64) (num den : Nat) (p : Int) : Option Decimal :=
  let n := num * Nat.pow 10 (-p).toNat
  let d := den * Nat.pow 10 p.toNat
  let below := n / d
  let reads (k : Nat) : Bool := ofDecimal false k p == x
  let nearest := roundHalfEven n d
  let nearer := if nearest = below then [below, below + 1] else [below + 1, below]
  (nearer.find? reads).map fun k => ⟨k, p⟩

/-- Tries one digit, then two, and so on up to the given number of tries. -/
def shortestFrom (x : Binary64) (num den : Nat) : Nat → Int → Decimal
  | 0, p => ⟨roundHalfEven (num * Nat.pow 10 (-p).toNat) (den * Nat.pow 10 p.toNat), p⟩
  | tries + 1, p =>
    match gridPoint? x num den p with
    | some point => point
    | none => shortestFrom x num den tries (p - 1)

/-- The shortest decimal of a positive finite word. -/
def shortest (x : Binary64) : Decimal :=
  let num := x.numerator.natAbs
  let den := x.denominator
  shortestFrom x num den 17 (decimalLog num den)

/-- Exponents from `-4` to `15` are written positionally, always with a fractional digit;
others as `d.de±xx` with at least two exponent digits. -/
def magnitudeText (x : Binary64) : String :=
  if x.significand = 0 then "0.0"
  else
    let point := shortest x
    let all := Nat.toDigits 10 point.digits
    let lead : Int := point.exponent + all.length - 1
    let significant := (all.reverse.dropWhile (· == '0')).reverse
    let count := significant.length
    if lead < -4 ∨ 16 ≤ lead then
      let fractionPart := if count ≤ 1 then [] else '.' :: significant.drop 1
      let power := Nat.toDigits 10 lead.natAbs
      let padded := if power.length < 2 then '0' :: power else power
      String.ofList (significant.take 1 ++ fractionPart ++
        ['e', if lead < 0 then '-' else '+'] ++ padded)
    else if lead < 0 then
      String.ofList ("0.".toList ++ List.replicate (lead.natAbs - 1) '0' ++ significant)
    else
      let whole := lead.toNat + 1
      let integral := significant.take whole ++ List.replicate (whole - count) '0'
      let fractional := if count ≤ whole then ['0'] else significant.drop whole
      String.ofList (integral ++ ['.'] ++ fractional)

/-- The names of the values that have no digits are the two given texts. -/
def textWith (nanName infName : String) (x : Binary64) : String :=
  if x.isNaN then nanName
  else
    let sign := if x.negative then "-" else ""
    sign ++ (if x.isFinite then magnitudeText { bits := UInt64.ofNat (x.bits.toNat % signBit) }
      else infName)

end FileShare.Binary64

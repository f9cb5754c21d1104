import FileShare.Json.Value
import FileShare.Text.Hex
import FileShare.Text.Split

/-! # Reading JSON text

The reader walks over the remaining code points. A fault is reported with the number of code points
that were left at it, so its offset is the length of the text less that number. Beyond the standard
grammar it takes the words for the values that are not finite, and integers are limited in length.
An escape may spell half of a surrogate pair without the other half.
-/
namespace FileShare.Json

inductive Fault where
  | valueExpected
  | nameExpected
  | colonExpected
  | commaExpected
  | extraData
  | unterminatedString
  | controlCharacter
  | invalidEscape
  | invalidCodeEscape
  | byteOrderMark
deriving DecidableEq, Repr

def Fault.message : Fault → String
  | valueExpected => "Expecting value"
  | nameExpected => "Expecting property name enclosed in double quotes"
  | colonExpected => "Expecting ':' delimiter"
  | commaExpected => "Expecting ',' delimiter"
  | extraData => "Extra data"
  | unterminatedString => "Unterminated string starting at"
  | controlCharacter => "Invalid control character at"
  | invalidEscape => "Invalid \\escape"
  | invalidCodeEscape => "Invalid \\uXXXX escape"
  | byteOrderMark => "Unexpected UTF-8 BOM (decode using utf-8-sig)"

inductive ReadError where
  /-- The text breaks the grammar where `remaining` code points are left. -/
  | malformed (fault : Fault) (remaining : Nat)
  /-- An integer has more digits than may be converted. -/
  | integerTooLong
deriving DecidableEq, Repr

def maxIntegerDigits : Nat := 4300

def isSpace : CodePoint → Bool
  | .char c => c == ' ' || c == '\t' || c == '\n' || c == '\r'
  | .surrogate _ => false

def skipSpace (cs : List CodePoint) : List CodePoint := cs.dropWhile isSpace

def fail (fault : Fault) (cs : List CodePoint) : Except ReadError α :=
  .error (.malformed fault cs.length)

def hexValue? : CodePoint → Option Nat
  | .char c => Text.hexValue? c
  | .surrogate _ => none

def codeUnit? : List CodePoint → Option Nat
  | [a, b, c, d] => do
    let a ← hexValue? a
    let b ← hexValue? b
    let c ← hexValue? c
    let d ← hexValue? d
    return ((a * 16 + b) * 16 + c) * 16 + d
  | _ => none

/-- The code unit of an escape; at least one more code point has to follow it. A fault is reported
at the mark. -/
def readCodeUnit (afterMark : List CodePoint) : Except ReadError (Nat × List CodePoint) :=
  let fault := Except.error (.malformed .invalidCodeEscape (afterMark.length + 1))
  if afterMark.length ≤ 4 then fault
  else
    match codeUnit? (afterMark.take 4) with
    | some unit => .ok (unit, afterMark.drop 4)
    | none => fault

def isHighSurrogate (unit : Nat) : Bool := 0xd800 ≤ unit && unit < 0xdc00

def isLowSurrogate (unit : Nat) : Bool := 0xdc00 ≤ unit && unit < 0xe000

def pairChar (high low : Nat) : Char :=
  Char.ofNat (0x10000 + (high - 0xd800) * 0x400 + (low - 0xdc00))

/-- The second half of a surrogate pair, if the text goes on with an escape that may be one. -/
def lowHalfFollows? (cs : List CodePoint) : Option (List CodePoint) :=
  match cs with
  | .char '\\' :: .char 'u' :: more => if more.length ≤ 4 then none else some more
  | _ => none

/-- The code point of a code escape, whose mark was read. -/
def readCodeEscape (afterMark : List CodePoint) :
    Except ReadError (CodePoint × List CodePoint) := do
  let (unit, rest) ← readCodeUnit afterMark
  if isHighSurrogate unit then
    match lowHalfFollows? rest with
    | some more =>
      let (low, rest') ← readCodeUnit more
      if isLowSurrogate low then return (.char (pairChar unit low), rest')
      else return (.ofNat unit, rest)
    | none => return (.ofNat unit, rest)
  else return (.ofNat unit, rest)

def simpleEscape? : Char → Option Char
  | '"' => some '"'
  | '\\' => some '\\'
  | '/' => some '/'
  | 'b' => some '\x08'
  | 'f' => some '\x0c'
  | 'n' => some '\n'
  | 'r' => some '\r'
  | 't' => some '\t'
  | _ => none

/-- The code point of an escape, whose backslash was read. `opened` counts what was left at the
opening quote. -/
def readEscape (opened : Nat) : List CodePoint → Except ReadError (CodePoint × List CodePoint)
  | [] => .error (.malformed .unterminatedString opened)
  | .char 'u' :: rest => readCodeEscape rest
  | mark :: rest =>
    match mark.char?.bind simpleEscape? with
    | some e => .ok (.char e, rest)
    | none => .error (.malformed .invalidEscape (rest.length + 2))

/-- The code points up to the closing quote. -/
def readPoints (opened : Nat) :
    Nat → List CodePoint → Except ReadError (List CodePoint × List CodePoint)
  | 0, _ => .error (.malformed .unterminatedString opened)
  | _ + 1, [] => .error (.malformed .unterminatedString opened)
  | fuel + 1, c :: rest =>
    if c = .char '"' then .ok ([], rest)
    else if c = .char '\\' then do
      let (e, rest') ← readEscape opened rest
      let (more, rest'') ← readPoints opened fuel rest'
      return (e :: more, rest'')
    else if c.toNat < 0x20 then fail .controlCharacter (c :: rest)
    else do
      let (more, rest') ← readPoints opened fuel rest
      return (c :: more, rest')

def readString (cs : List CodePoint) : Except ReadError (RawText × List CodePoint) := do
  let (points, rest) ← readPoints (cs.length + 1) (cs.length + 1) cs
  return (.ofPoints points, rest)

def isDecimalDigit : CodePoint → Bool
  | .char c => '0' ≤ c && c ≤ '9'
  | .surrogate _ => false

def decimalNumber (digits : List CodePoint) : Nat :=
  digits.foldl (fun n c => 10 * n + (c.toNat - 48)) 0

/-- The digits of the integral part: a zero alone, or digits that start with another one. -/
def integralDigits? : List CodePoint → Option (List CodePoint × List CodePoint)
  | [] => none
  | c :: rest =>
    if c = .char '0' then some ([c], rest)
    else if isDecimalDigit c then
      some (c :: rest.takeWhile isDecimalDigit, rest.dropWhile isDecimalDigit)
    else none

/-- A point counts only when a digit follows it. -/
def fractionDigits : List CodePoint → List CodePoint × List CodePoint
  | .char '.' :: rest =>
    let digits := rest.takeWhile isDecimalDigit
    if digits.isEmpty then ([], .char '.' :: rest) else (digits, rest.dropWhile isDecimalDigit)
  | cs => ([], cs)

def exponentSign : List CodePoint → Bool × List CodePoint
  | .char '-' :: rest => (true, rest)
  | .char '+' :: rest => (false, rest)
  | cs => (false, cs)

/-- An exponent mark counts only when digits follow it. -/
def exponentPart? : List CodePoint → Option (Int × List CodePoint)
  | c :: rest =>
    if c = .char 'e' ∨ c = .char 'E' then
      let (neg, digitsOn) := exponentSign rest
      let digits := digitsOn.takeWhile isDecimalDigit
      if digits.isEmpty then none
      else
        let n : Int := decimalNumber digits
        some (if neg then -n else n, digitsOn.dropWhile isDecimalDigit)
    else none
  | [] => none

def readNumber (cs : List CodePoint) : Except ReadError (Number × List CodePoint) :=
  let (neg, unsigned) := match cs with
    | .char '-' :: rest => (true, rest)
    | _ => (false, cs)
  match integralDigits? unsigned with
  | none => fail .valueExpected cs
  | some (integral, rest) =>
    let (fraction, rest) := fractionDigits rest
    match exponentPart? rest with
    | some (e, rest) =>
      .ok (.float (Binary64.ofDecimal neg (decimalNumber (integral ++ fraction))
        (e - fraction.length)), rest)
    | none =>
      if fraction.isEmpty then
        if maxIntegerDigits < integral.length then .error .integerTooLong
        else
          let n : Int := decimalNumber integral
          .ok (.int (if neg then -n else n), rest)
      else
        .ok (.float (Binary64.ofDecimal neg (decimalNumber (integral ++ fraction))
          (-(fraction.length : Int))), rest)

/-- The words that stand for values. -/
def words : List (String × Json) :=
  [("null", .null), ("true", .bool true), ("false", .bool false),
   ("NaN", .float Binary64.nan), ("Infinity", .float (Binary64.infinity false)),
   ("-Infinity", .float (Binary64.infinity true))]

def readWord? (cs : List CodePoint) : Option (Json × List CodePoint) :=
  words.findSome? fun (word, value) =>
    (Text.after? (RawText.text word).points cs).map (value, ·)

def readScalar (cs : List CodePoint) : Except ReadError (Json × List CodePoint) :=
  match readWord? cs with
  | some found => .ok found
  | none => do
    let (n, rest) ← readNumber cs
    return (.num n, rest)

mutual

def readValue : Nat → List CodePoint → Except ReadError (Json × List CodePoint)
  | 0, cs => fail .valueExpected cs
  | _ + 1, [] => fail .valueExpected []
  | fuel + 1, c :: rest =>
    if c = .char '"' then do
      let (s, rest') ← readString rest
      return (.ofText s, rest')
    else if c = .char '[' then
      match skipSpace rest with
      | .char ']' :: rest' => .ok (.arr [], rest')
      | inside => do
        let (items, rest') ← readItems fuel inside
        return (.arr items, rest')
    else if c = .char '\x7b' then
      match skipSpace rest with
      | .char '\x7d' :: rest' => .ok (.obj [], rest')
      | inside => do
        let (entries, rest') ← readEntries fuel [] inside
        return (.obj entries, rest')
    else readScalar (c :: rest)

/-- The items up to the closing bracket; at least one has to be there. -/
def readItems : Nat → List CodePoint → Except ReadError (List Json × List CodePoint)
  | 0, cs => fail .valueExpected cs
  | fuel + 1, cs => do
    let (item, rest) ← readValue fuel cs
    match skipSpace rest with
    | .char ']' :: rest' => return ([item], rest')
    | .char ',' :: rest' =>
      let (items, rest'') ← readItems fuel (skipSpace rest')
      return (item :: items, rest'')
    | rest' => fail .commaExpected rest'

/-- The entries up to the closing brace; at least one has to be there. -/
def readEntries : Nat → Object → List CodePoint → Except ReadError (Object × List CodePoint)
  | 0, _, cs => fail .nameExpected cs
  | fuel + 1, before, cs =>
    match cs with
    | .char '"' :: named => do
      let (name, rest) ← readString named
      match skipSpace rest with
      | .char ':' :: rest' =>
        let (value, rest'') ← readValue fuel (skipSpace rest')
        let entries := Entries.put before name value
        match skipSpace rest'' with
        | .char '\x7d' :: rest''' => return (entries, rest''')
        | .char ',' :: rest''' => readEntries fuel entries (skipSpace rest''')
        | other => fail .commaExpected other
      | other => fail .colonExpected other
    | other => fail .nameExpected other

end

/-- One value with nothing but space around it. -/
def readText (cs : List CodePoint) : Except ReadError Json :=
  match cs with
  | .char '\ufeff' :: _ => fail .byteOrderMark cs
  | _ => do
    let (value, rest) ← readValue (2 * cs.length + 2) (skipSpace cs)
    match skipSpace rest with
    | [] => return value
    | extra => fail .extraData extra

def read (s : RawText) : Except ReadError Json := readText s.points

end FileShare.Json

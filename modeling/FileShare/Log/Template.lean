import FileShare.Failure
import FileShare.Number.Decimal

/-! # Templates

A template is a text with conversions. A conversion is a percent sign, an optional name in
parentheses, flags, a width, a precision and a letter; it takes the next argument or the one of its
name and writes it into a field of the width.
-/
namespace FileShare.Log

inductive Arguments where
  | list (items : List Json)
  | mapping (entries : Json.Object)
deriving Repr

structure Flags where
  left : Bool := false
  sign : Bool := false
  blank : Bool := false
  alternate : Bool := false
  zero : Bool := false
deriving DecidableEq, Repr

structure Spec where
  flags : Flags := {}
  width : Nat := 0
  precision : Option Nat := none
deriving DecidableEq, Repr

/-! ## Fields -/

/-- The sign or mark at the start of a number's text, and its digits. -/
structure Numeral where
  sign : String := ""
  mark : String := ""
  digits : String
deriving DecidableEq, Repr

def fill (c : Char) (length width : Nat) : String :=
  String.ofList (List.replicate (width - length) c)

def textField (spec : Spec) (t : RawText) : RawText :=
  let cut := match spec.precision with
    | some n => t.take n
    | none => t
  let blanks := fill ' ' cut.length spec.width
  if spec.flags.left then cut ++ blanks else blanks ++ cut

/-- Zeros go between the sign and the digits, blanks to the outside. -/
def numberField (spec : Spec) (n : Numeral) : String :=
  let sign :=
    if n.sign ≠ "" then n.sign
    else if spec.flags.sign then "+"
    else if spec.flags.blank then " "
    else ""
  let whole := sign ++ n.mark ++ n.digits
  if spec.flags.left then whole ++ fill ' ' whole.length spec.width
  else if spec.flags.zero then sign ++ n.mark ++ fill '0' whole.length spec.width ++ n.digits
  else fill ' ' whole.length spec.width ++ whole

/-! ## Numbers -/

def kindName : Json → String
  | .null => "NoneType"
  | .bool _ => "bool"
  | .num (.int _) => "int"
  | .num (.float _) => "float"
  | .str _ | .unpaired .. => "str"
  | .arr _ => "list"
  | .obj _ => "dict"

def wholeNumber? (letter : Char) : Json → Except Failure Int
  | .bool b => .ok (if b then 1 else 0)
  | .num (.int n) => .ok n
  | v =>
    if letter = 'd' || letter = 'i' || letter = 'u' then
      match v with
      | .num (.float x) =>
        if x.isNaN then breakDown (.badFormat "cannot convert float NaN to integer")
        else if x.isFinite then .ok x.truncate
        else breakDown .infiniteInteger
      | _ =>
        breakDown (.badArgument
          ("%" ++ letter.toString ++ " format: a real number is required, not " ++ kindName v))
    else
      breakDown (.badArgument
        ("%" ++ letter.toString ++ " format: an integer is required, not " ++ kindName v))

def wholeNumeral (spec : Spec) (letter : Char) (n : Int) : Numeral :=
  let base := if letter = 'x' || letter = 'X' then 16 else if letter = 'o' then 8 else 10
  let digits := Nat.toDigits base n.natAbs
  let padded := List.replicate ((spec.precision.getD 0) - digits.length) '0' ++ digits
  let text := String.ofList (if letter = 'X' then padded.map Char.toUpper else padded)
  let mark :=
    if !spec.flags.alternate then ""
    else if letter = 'x' then "0x"
    else if letter = 'X' then "0X"
    else if letter = 'o' then "0o"
    else ""
  { sign := if n < 0 then "-" else "", mark, digits := text }

/-- `n / 10 ^ places` with all places written. -/
def fixedDigits (n places : Nat) (pointAlways : Bool) : String :=
  let digits := Nat.toDigits 10 n
  let padded := List.replicate (places + 1 - digits.length) '0' ++ digits
  let whole := padded.take (padded.length - places)
  let rest := padded.drop (padded.length - places)
  String.ofList (whole ++ (if places = 0 && !pointAlways then [] else '.' :: rest))

def fixedText (num den places : Nat) (pointAlways : Bool) : String :=
  fixedDigits (Binary64.roundHalfEven (num * Nat.pow 10 places) den) places pointAlways

/-- The significant digits of a quotient as an integer, and the exponent of the first of them. -/
def significant (num den places : Nat) : Nat × Int :=
  if num = 0 then (0, 0)
  else
    let lead := Binary64.decimalLog num den
    let shift : Int := places - lead
    let n := Binary64.roundHalfEven (num * Nat.pow 10 shift.toNat) (den * Nat.pow 10 (-shift).toNat)
    if Nat.pow 10 (places + 1) ≤ n then (n / 10, lead + 1) else (n, lead)

def exponentText (e : Int) : String :=
  let digits := Nat.toDigits 10 e.natAbs
  (if e < 0 then "e-" else "e+") ++
    String.ofList (List.replicate (2 - digits.length) '0' ++ digits)

def dropTrailingZeros (s : String) : String :=
  if s.toList.contains '.' then
    let kept := s.toList.reverse.dropWhile (· = '0')
    String.ofList (kept.dropWhile (· = '.')).reverse
  else s

def realText (spec : Spec) (letter : Char) (num den : Nat) : String :=
  let places := spec.precision.getD 6
  match letter with
  | 'f' => fixedText num den places spec.flags.alternate
  | 'e' =>
    let (n, lead) := significant num den places
    fixedDigits n places spec.flags.alternate ++ exponentText lead
  | _ =>
    let count := max places 1
    let (n, lead) := significant num den (count - 1)
    let trim (s : String) : String := if spec.flags.alternate then s else dropTrailingZeros s
    if lead < -4 || (count : Int) ≤ lead then
      trim (fixedDigits n (count - 1) spec.flags.alternate) ++ exponentText lead
    else
      trim (fixedText num den ((count : Int) - 1 - lead).toNat spec.flags.alternate)

def realNumber? : Json → Except Failure Binary64
  | .num (.float x) => .ok x
  | .num (.int n) =>
    let x := Binary64.ofIntRatio n 1
    if x.isFinite then .ok x else breakDown .integerBeyondReal
  | .bool b => .ok (Binary64.ofIntRatio (if b then 1 else 0) 1)
  | v => breakDown (.badArgument ("must be real number, not " ++ kindName v))

def realNumeral (spec : Spec) (letter : Char) (x : Binary64) : Numeral :=
  let text :=
    if x.isNaN then "nan"
    else if !x.isFinite then "inf"
    else realText spec letter.toLower x.numerator.natAbs x.denominator
  { sign := if x.negative && !x.isNaN then "-" else ""
    digits := if letter.isUpper then String.ofList (text.toList.map Char.toUpper) else text }

/-! ## Conversions -/

def character (v : Json) : Except Failure RawText :=
  match v.text? with
  | some t => if t.length = 1 then .ok t else breakDown (.badArgument "%c requires int or char")
  | none =>
    match v with
    | .num (.int n) =>
      if 0 ≤ n ∧ n < 0x110000 then .ok (.ofPoints [.ofNat n.toNat]) else breakDown .notACodePoint
    | .bool b => .ok (.ofPoints [.ofNat b.toNat])
    | _ => breakDown (.badArgument "%c requires int or char")

def asciiOnly (s : String) : String :=
  String.ofList (s.toList.flatMap fun c =>
    if c.toNat < 0x80 then [c]
    else if c.toNat < 0x100 then '\\' :: 'x' :: Text.hexDigits 2 c.toNat
    else if c.toNat < 0x10000 then '\\' :: 'u' :: Text.hexDigits 4 c.toNat
    else '\\' :: 'U' :: Text.hexDigits 8 c.toNat)

def convert (spec : Spec) (letter : Char) (v : Json) : Except Failure RawText := do
  if letter = 's' then return textField spec v.display
  else if letter = 'r' then return textField spec v.displayInside
  else if letter = 'a' then return textField spec (asciiOnly v.displayInside)
  else if letter ∈ ['d', 'i', 'u', 'x', 'X', 'o'] then
    return numberField spec (wholeNumeral spec letter (← wholeNumber? letter v))
  else if letter ∈ ['e', 'E', 'f', 'F', 'g', 'G'] then
    return numberField spec (realNumeral spec letter (← realNumber? v))
  else if letter = 'c' then return textField { spec with precision := none } (← character v)
  else breakDown (.badFormat "unsupported format character")

/-! ## Reading a template -/

/-- Arguments that are left. A name leaves its value as the only argument. -/
inductive Supply where
  | items (left : List Json)
  | whole (mapping : Json)
  | spent
deriving Repr

def Supply.next : Supply → Except Failure (Json × Supply)
  | items (v :: left) => .ok (v, items left)
  | whole v => .ok (v, spent)
  | _ => breakDown .tooFewArguments

def flagOf? (f : Flags) : Char → Option Flags
  | '-' => some { f with left := true }
  | '+' => some { f with sign := true }
  | ' ' => some { f with blank := true }
  | '#' => some { f with alternate := true }
  | '0' => some { f with zero := true }
  | _ => none

def readFlags (f : Flags) : List Char → Flags × List Char
  | [] => (f, [])
  | c :: rest =>
    match flagOf? f c with
    | some f' => readFlags f' rest
    | none => (f, c :: rest)

def isAsciiDigit (c : Char) : Bool := '0' ≤ c && c ≤ '9'

def takeNumber (cs : List Char) : Nat × List Char :=
  ((cs.takeWhile isAsciiDigit).foldl (fun n c => 10 * n + (c.toNat - 48)) 0,
    cs.dropWhile isAsciiDigit)

/-- What holds a size of a field: its name, the word for the size and the first number that it
cannot hold. -/
structure SizeKind where
  target : String
  word : String
  bound : Nat

def widths : SizeKind := ⟨"ssize_t", "width", 0x8000000000000000⟩

def precisions : SizeKind := ⟨"int", "precision", 0x80000000⟩

/-- A size is written in digits or taken from the arguments. -/
def readSize (kind : SizeKind) (supply : Supply) :
    List Char → Except Failure (Int × Supply × List Char)
  | '*' :: rest => do
    let (v, supply') ← supply.next
    let n ← match v with
      | .num (.int n) => pure n
      | .bool b => pure (Int.ofNat b.toNat)
      | _ => breakDown (.badArgument "* wants int")
    if -(kind.bound : Int) ≤ n ∧ n < kind.bound then return (n, supply', rest)
    else breakDown (.sizeTooWide kind.target)
  | cs =>
    let (n, rest) := takeNumber cs
    if n < kind.bound then .ok (n, supply, rest)
    else breakDown (.badFormat (kind.word ++ " too big"))

def readWidth (flags : Flags) (supply : Supply) (cs : List Char) :
    Except Failure (Spec × Supply × List Char) := do
  let (n, supply', rest) ← readSize widths supply cs
  if n < 0 then return ({ flags := { flags with left := true }, width := n.natAbs }, supply', rest)
  else return ({ flags, width := n.toNat }, supply', rest)

def readPrecision (spec : Spec) (supply : Supply) :
    List Char → Except Failure (Spec × Supply × List Char)
  | '.' :: cs => do
    let (n, supply', rest) ← readSize precisions supply cs
    return ({ spec with precision := some n.toNat }, supply', rest)
  | cs => .ok (spec, supply, cs)

/-- A name in parentheses, which may contain pairs of them. -/
def takeName (depth : Nat) : List Char → Option (List Char × List Char)
  | [] => none
  | ')' :: rest =>
    match depth with
    | 0 => some ([], rest)
    | d + 1 => (takeName d rest).map fun r => (')' :: r.1, r.2)
  | '(' :: rest => (takeName (depth + 1) rest).map fun r => ('(' :: r.1, r.2)
  | c :: rest => (takeName depth rest).map fun r => (c :: r.1, r.2)

def readName (arguments : Arguments) (supply : Supply) :
    List Char → Except Failure (Supply × List Char)
  | '(' :: cs =>
    match arguments with
    | .list _ => breakDown (.badArgument "format requires a mapping")
    | .mapping entries =>
      match takeName 0 cs with
      | none => breakDown (.badFormat "incomplete format key")
      | some (name, rest) =>
        match Entries.get? entries (.text (String.ofList name)) with
        | some v => .ok (.whole v, rest)
        | none => breakDown .unknownAttribute
  | cs => .ok (supply, cs)

def skipLengthMark : List Char → List Char
  | c :: rest => if c = 'h' || c = 'l' || c = 'L' then rest else c :: rest
  | [] => []

/-- One conversion, from after the percent sign. A second percent sign stands for itself. -/
def conversion (arguments : Arguments) (supply : Supply) :
    List Char → Except Failure (RawText × Supply × List Char)
  | '%' :: rest => .ok (.text "%", supply, rest)
  | cs => do
    let (supply, cs) ← readName arguments supply cs
    let (flags, cs) := readFlags {} cs
    let (spec, supply, cs) ← readWidth flags supply cs
    let (spec, supply, cs) ← readPrecision spec supply cs
    match skipLengthMark cs with
    | [] => breakDown (.badFormat "incomplete format")
    | letter :: rest =>
      let (v, supply) ← supply.next
      return (← convert spec letter v, supply, rest)

/-- All of a template; every conversion takes at least one character. -/
def expand (arguments : Arguments) : Nat → Supply → List Char → Except Failure (RawText × Supply)
  | 0, supply, _ => .ok ("", supply)
  | _ + 1, supply, [] => .ok ("", supply)
  | fuel + 1, supply, c :: rest =>
    if c = '%' then do
      let (text, supply', left) ← conversion arguments supply rest
      let (more, final) ← expand arguments fuel supply' left
      return (text ++ more, final)
    else do
      let (more, final) ← expand arguments fuel supply rest
      return (c.toString ++ more, final)

/-- Fills a template. Arguments in a list have all to be used. -/
def fillTemplate (template : String) (arguments : Arguments) : Except Failure RawText := do
  let supply := match arguments with
    | .list items => Supply.items items
    | .mapping entries => Supply.whole (.obj entries)
  let cs := template.toList
  let (text, final) ← expand arguments (cs.length + 1) supply cs
  match arguments, final with
  | .list _, .items (_ :: _) => breakDown .tooManyArguments
  | _, _ => return text

end FileShare.Log

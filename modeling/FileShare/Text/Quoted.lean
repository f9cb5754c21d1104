import FileShare.RawText
import FileShare.Text.Hex
import FileShare.Text.Printable

/-! # Quoted text in messages

Single quotes, or double quotes when the text holds single quotes only; what is not printable is
escaped by its code point.
-/
namespace FileShare.Text

def quoteMark (cs : List Char) : Char :=
  if cs.contains '\'' && !cs.contains '"' then '"' else '\''

def escapeByCode (n : Nat) : List Char :=
  if n ≤ 0xff then '\\' :: 'x' :: hexDigits 2 n
  else if n ≤ 0xffff then '\\' :: 'u' :: hexDigits 4 n
  else '\\' :: 'U' :: hexDigits 8 n

def escapeIn (mark : Char) : CodePoint → List Char
  | .surrogate h => escapeByCode h.toNat
  | .char c =>
    if c = mark ∨ c = '\\' then ['\\', c]
    else if c = '\t' then ['\\', 't']
    else if c = '\n' then ['\\', 'n']
    else if c = '\r' then ['\\', 'r']
    else if isPrintable c then [c]
    else escapeByCode c.toNat

def quoted (t : RawText) : String :=
  let points := t.points
  let mark := quoteMark (points.filterMap CodePoint.char?)
  String.ofList (mark :: points.flatMap (escapeIn mark) ++ [mark])

end FileShare.Text

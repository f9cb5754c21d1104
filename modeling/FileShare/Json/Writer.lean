import FileShare.Json.Value
import FileShare.Text.Hex

/-! # Writing JSON text

Items are parted by a comma and a space, a name from its value by a colon and a space. Quotes,
backslashes and control characters are escaped; all other code points stand as they are.
-/
namespace FileShare.Json

def escapeChar (c : Char) : List Char :=
  if c = '"' then ['\\', '"']
  else if c = '\\' then ['\\', '\\']
  else if c = '\n' then ['\\', 'n']
  else if c = '\r' then ['\\', 'r']
  else if c = '\t' then ['\\', 't']
  else if c = '\x08' then ['\\', 'b']
  else if c = '\x0c' then ['\\', 'f']
  else if c.toNat < 0x20 then '\\' :: 'u' :: Text.hexDigits 4 c.toNat
  else [c]

def escapePoint : CodePoint → List CodePoint
  | .char c => (escapeChar c).map .char
  | .surrogate h => [.surrogate h]

def writeString (s : RawText) : List CodePoint :=
  .char '"' :: s.points.flatMap escapePoint ++ [.char '"']

def writeNumber : Number → String
  | .int n => toString n
  | .float x => x.textWith "NaN" "Infinity"

mutual

def write : Json → List CodePoint
  | .null => (RawText.text "null").points
  | .bool b => (RawText.text (if b then "true" else "false")).points
  | .num n => (RawText.text (writeNumber n)).points
  | .str s => writeString s
  | .unpaired before half after => writeString (.unpaired before half after)
  | .arr items => .char '[' :: writeItems items ++ [.char ']']
  | .obj entries => .char '\x7b' :: writeEntries entries ++ [.char '\x7d']

def writeItems : List Json → List CodePoint
  | [] => []
  | [v] => write v
  | v :: w :: more => write v ++ [.char ',', .char ' '] ++ writeItems (w :: more)

def writeEntries : List (RawText × Json) → List CodePoint
  | [] => []
  | [(k, v)] => writeString k ++ [.char ':', .char ' '] ++ write v
  | (k, v) :: e :: more =>
    writeString k ++ [.char ':', .char ' '] ++ write v ++ [.char ',', .char ' '] ++
      writeEntries (e :: more)

end

def toText (v : Json) : RawText := .ofPoints (write v)

end FileShare.Json

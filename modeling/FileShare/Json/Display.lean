import FileShare.Json.Value
import FileShare.Text.Quoted

/-! # Values in messages

A text shows as it is when it stands alone and quoted inside a container.
-/
namespace FileShare.Json

def displayNumber : Number → String
  | .int n => toString n
  | .float x => x.textWith "nan" "inf"

mutual

def displayInside : Json → String
  | .null => "None"
  | .bool b => if b then "True" else "False"
  | .num n => displayNumber n
  | .str s => Text.quoted s
  | .unpaired before half after => Text.quoted (.unpaired before half after)
  | .arr items => "[" ++ displayItems items ++ "]"
  | .obj entries => "\x7b" ++ displayEntries entries ++ "\x7d"

def displayItems : List Json → String
  | [] => ""
  | [v] => displayInside v
  | v :: w :: more => displayInside v ++ ", " ++ displayItems (w :: more)

def displayEntries : List (RawText × Json) → String
  | [] => ""
  | [(k, v)] => Text.quoted k ++ ": " ++ displayInside v
  | (k, v) :: e :: more =>
    Text.quoted k ++ ": " ++ displayInside v ++ ", " ++ displayEntries (e :: more)

end

def display : Json → RawText
  | .str s => s
  | .unpaired before half after => .unpaired before half after
  | v => displayInside v

end FileShare.Json

import FileShare.Failure
import FileShare.Instant
import FileShare.Text.Hex
import FileShare.Text.LowerCase

/-! # Identifiers

An identifier is 24 hexadecimal digits: four bytes of seconds, five of a process tag, three of
a counter. Lower-case identifiers therefore sort as texts in the order of their creation.
-/
namespace FileShare

namespace Identifier

def isValid (s : String) : Bool := s.length == 24 && s.toList.all Text.isHexDigit

/-- A well-formed identifier in lower case; any other value is reported as it was given. -/
def parse (field : Option String) : Json → Except Failure String
  | .str s => if isValid s then .ok (Text.lower s) else reject (.badIdentifier (.str s) field)
  | v => reject (.badIdentifier v field)

/-- An optional identifier, such as a cursor: null and the empty text stand for none. -/
def parseOptional (field : Option String) : Json → Except Failure (Option String)
  | .null => .ok none
  | .str "" => .ok none
  | v => some <$> parse field v

/-- Containers cannot be members of a set of values. -/
def checkHashable : Json → Except Failure Unit
  | .arr _ => breakDown (.unhashable .list)
  | .obj _ => breakDown (.unhashable .object)
  | _ => .ok ()

/-- Each of the values once, normalized, in the order of first occurrence. Repetitions are dropped
as they were given and again after normalization, which makes more values equal. -/
def parseAll (field : Option String) (values : List Json) : Except Failure (List String) := do
  values.forM checkHashable
  let given := values.eraseDupsBy Json.sameMember
  return (← given.mapM (parse field)).eraseDups

end Identifier

/-- The part of an identifier that the process supplies. -/
structure Generator where
  processTag : Nat
  counter : Nat
deriving DecidableEq, Repr

namespace Generator

def draw (g : Generator) (now : Instant) : String × Generator :=
  let seconds := (now.wholeSeconds % (0x100000000 : Nat)).toNat
  let digits := Text.hexDigits 8 seconds ++ Text.hexDigits 10 g.processTag ++
    Text.hexDigits 6 (g.counter % 0x1000000)
  (String.ofList digits, { g with counter := g.counter + 1 })

/-- The identifiers of a number of draws at one instant. -/
def drawMany (now : Instant) : Nat → Generator → List String
  | 0, _ => []
  | n + 1, g =>
    let (id, g') := g.draw now
    id :: drawMany now n g'

/-- Only the lowest three bytes of the counter show. -/
def withCounter (g : Generator) (n : Int) : Generator :=
  { g with counter := (n % (0x1000000 : Nat)).toNat }

end Generator
end FileShare

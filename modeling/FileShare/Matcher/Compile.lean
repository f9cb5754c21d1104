import FileShare.Failure
import FileShare.Json.Reader
import FileShare.Matcher
import FileShare.Pattern.Parser
import FileShare.Username

/-! # Checking matchers

A pair of untrusted values, one for equality and one for patterns, becomes a matcher or a
failure. Entries are checked in order, those of the equality matcher first, and the first
fault is reported. Both values together may hold one entry on a grant.
-/
namespace FileShare.Matcher

/-- What the entries of a matcher contribute. -/
structure Part where
  terms : List Term := []
  alternatives : List Term := []
  /-- An entry on a grant is among them. -/
  claims : Bool := false
deriving Repr

def Part.append (p q : Part) : Part :=
  ⟨p.terms ++ q.terms, p.alternatives ++ q.alternatives, p.claims || q.claims⟩

def equalityFields : List String :=
  ["type", "owner", "createdAt", "modifiedAt", "name", "size", "text"]

def patternFields : List String := ["type", "owner", "name", "text"]

def permissionLevels : List String := ["view", "edit"]

def innerField (field : String) : String := if field = "name" then lowerNameField else field

def normalizeTags (tags : List String) : List String := (tags.map Text.lower).eraseDups

/-- The same for tags as a client spelled them. -/
def normalizeRawTags (tags : List RawText) : List RawText := (tags.map RawText.lower).eraseDups

/-- The numbers that may be compared with: integers and finite words. -/
def finiteNumber? : Json → Option Number
  | .num n => if n.isFinite then some n else none
  | _ => none

def isScalar : Json → Bool
  | .null | .bool _ | .str _ | .unpaired .. => true
  | .num n => n.isFinite
  | _ => false

def operand (field : String) (index : Nat) : Json → Except Failure Term
  | .obj [(symbol, value)] =>
    match Comparison.ofSymbol? symbol with
    | none => reject (.badAlternatives (.unknownOperator symbol index))
    | some how =>
      match finiteNumber? value with
      | none => reject (.badAlternatives (.notNumber symbol index))
      | some n => .ok (.range field how.symbol n)
  | .obj _ => reject (.badAlternatives (.notSingle index))
  | _ => reject (.badAlternatives (.notObject index))

/-- The alternatives of a field are a pair of operands. -/
def operands (field : String) : Json → Except Failure (List Term)
  | .arr [a, b] => do return [← operand field 0 a, ← operand field 1 b]
  | _ => reject (.badAlternatives .notPair)

def condition (field : String) (symbol : RawText) (value : Json) : Except Failure Part :=
  if symbol = .text "$or" then do
    return { alternatives := ← operands field value }
  else
    match Comparison.ofSymbol? symbol with
    | none => reject (.unknownCondition symbol)
    | some how =>
      match finiteNumber? value with
      | none => reject (.badSpecifierValue symbol .number)
      | some n => .ok { terms := [.range field how.symbol n] }

def conditions (field : String) : Json.Object → Except Failure Part
  | [] => .ok {}
  | (symbol, value) :: rest => do
    let part ← condition field symbol value
    let more ← conditions field rest
    return part.append more

def texts? (items : List Json) : Option (List RawText) := items.mapM Json.text?

def tagEntry (limits : Settings) : Json → Except Failure Part
  | .arr items =>
    if limits.maxSearchableTags < items.length then reject (.tooMany "searchable tags")
    else
      match texts? items with
      | none => reject (.badSpecifierValue "tags" .listOfTexts)
      | some tags => .ok { terms := [.anyOf "tags" (normalizeRawTags tags)] }
  | _ => reject (.badSpecifierValue "tags" .list)

/-- The grantee that an entry on a grant names. `claimed` tells of an earlier such entry. -/
def claim (limits : Settings) (claimed : Bool) (key grantee : RawText) : Except Failure String :=
  if claimed then reject (.tooMany "permissions specifiers")
  else
    match grantee with
    | .text name =>
      if name ≠ publicGrantee && !Username.isShaped limits name then
        reject (.unknownSpecifier key)
      else .ok name
    | .unpaired .. => reject (.unknownSpecifier key)

def grantEntry (key : RawText) (grantee : String) : Json → Except Failure Part
  | .str level =>
    if level ∈ permissionLevels then .ok { terms := [.granted grantee level], claims := true }
    else reject (.badSpecifierValue key .level)
  | _ => reject (.badSpecifierValue key .level)

/-- The name among the given ones that a key is. -/
def knownField? (fields : List String) (key : RawText) : Option String :=
  key.utf8?.filter (· ∈ fields)

def lowerName (key : String) (v : Json) : Json :=
  if key = "name" then
    match v.text? with
    | some t => .ofText t.lower
    | none => v
  else v

def fieldEntry (key : String) : Json → Except Failure Part
  | .obj entries => do
    let part ← conditions (innerField key) entries
    if part.terms.isEmpty && part.alternatives.isEmpty then
      reject (.badSpecifierValue key .nonEmptyObject)
    else return part
  | v =>
    if isScalar v then .ok { terms := [.equals (innerField key) (lowerName key v)] }
    else reject (.badSpecifierValue key .scalarOrConditions)

def equalityEntry (limits : Settings) (claimed : Bool) (key : RawText) (value : Json) :
    Except Failure Part :=
  if key = .text "tags" then tagEntry limits value
  else if key = .text "permissions" then reject .barePermissions
  else
    match key.rest? "permissions." with
    | some grantee => do
      let name ← claim limits claimed key grantee
      grantEntry key name value
    | none =>
      match knownField? equalityFields key with
      | some field => fieldEntry field value
      | none => reject (.unknownSpecifier key)

/-- Patterns disregard case, and their line anchors hold at every line. -/
def patternOptions : Pattern.Options := { ignoreCase := true, multiline := true }

def readPattern (source : RawText) : Except Pattern.Refusal Pattern :=
  Pattern.ofText patternOptions source

def checkPattern (key source : RawText) : Except Failure Unit :=
  if source = .text "" then reject (.badPattern key)
  else
    match readPattern source with
    | .ok _ => .ok ()
    | .error .malformed => reject (.badPattern key)
    | .error .repetitionTooLarge => breakDown .repetitionTooLarge
    | .error .numberTooLong => breakDown .numberTooLong
    | .error .conflictingAlphabets => breakDown .conflictingAlphabets

/-- The source of a pattern in an entry, checked. -/
def patternSource (key : RawText) (value : Json) : Except Failure RawText :=
  match value.text? with
  | some t => do
    let source := if key = .text "name" then t.lower else t
    checkPattern key source
    return source
  | none => reject (.badPattern key)

def patternEntry (limits : Settings) (claimed : Bool) (key : RawText) (value : Json) :
    Except Failure Part :=
  if key = .text "permissions" then reject .barePermissions
  else
    match key.rest? "permissions." with
    | some grantee => do
      let name ← claim limits claimed key grantee
      let source ← patternSource key value
      return { terms := [.grantFits name source], claims := true }
    | none =>
      match knownField? patternFields key with
      | some field => do
        let source ← patternSource key value
        return { terms := [.fits (innerField field) source] }
      | none => reject (.unknownSpecifier key)

/-- The parts of all entries in order; `claimed` tells of an earlier entry on a grant. -/
def entries (check : Bool → RawText → Json → Except Failure Part) (claimed : Bool) :
    Json.Object → Except Failure Part
  | [] => .ok {}
  | (key, value) :: rest => do
    let part ← check claimed key value
    let more ← entries check (claimed || part.claims) rest
    return part.append more

/-- A matcher is an object; null stands for one without entries. -/
def entriesOf (name : String) : Json → Except Failure Json.Object
  | .null => .ok []
  | .obj o => .ok o
  | _ => reject (.matcherNotObject name)

def compile (limits : Settings) (equality patterns : Json) : Except Failure Matcher := do
  let first ← entriesOf "match" equality
  let second ← entriesOf "regexMatch" patterns
  let part ← entries (equalityEntry limits) false first
  let more ← entries (patternEntry limits) part.claims second
  return ⟨part.terms ++ more.terms, part.alternatives⟩

/-- Reads the text of a matcher; a missing or an empty text stands for null. -/
def readText (name : String) : Option String → Except Failure Json
  | none => .ok .null
  | some "" => .ok .null
  | some raw =>
    match Json.read raw with
    | .ok v => .ok v
    | .error (.malformed ..) => reject (.matcherNotObject name)
    | .error .integerTooLong => breakDown .numberTooLong

end FileShare.Matcher

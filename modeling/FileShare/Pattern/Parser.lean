import FileShare.Pattern.Syntax
import FileShare.RawText
import FileShare.Text.Category
import FileShare.Text.CharacterName
import FileShare.Text.Hex
import FileShare.Text.Name

/-! # Reading patterns

A pattern is read from tokens: a backslash and the character after it are one token. The reader
keeps the groups met so far, because a reference may only name a group that is closed. Besides a
pattern that is malformed there are three other refusals, which callers treat differently.
-/
namespace FileShare.Pattern

inductive Refusal where
  | malformed
  | repetitionTooLarge
  | numberTooLong
  | conflictingAlphabets
deriving DecidableEq, Repr

/-- A surrogate has no meaning but itself, with a backslash before it or without. -/
inductive Token where
  | plain (c : Char)
  | escaped (c : Char)
  | surrogate (half : Surrogate)
  /-- A backslash at the end of the pattern. -/
  | dangling
deriving DecidableEq, Repr

def tokens : List CodePoint → List Token
  | [] => []
  | [.char '\\'] => [.dangling]
  | .char '\\' :: .char c :: rest => .escaped c :: tokens rest
  | .char '\\' :: .surrogate half :: rest => .surrogate half :: tokens rest
  | .char c :: rest => .plain c :: tokens rest
  | .surrogate half :: rest => .surrogate half :: tokens rest

def Token.text? : Token → Option (List Char)
  | plain c => some [c]
  | escaped c => some ['\\', c]
  | surrogate _ => none
  | dangling => some ['\\']

structure Reader where
  rest : List Token
  options : Options
  /-- The widths of the groups, by number from one; an open group has none yet. -/
  groups : List (Option Width) := []
  names : List (String × Nat) := []
  /-- Inside a lookbehind, the number of groups that were opened before it. -/
  groupsBeforeLookbehind : Option Nat := none
  /-- The greatest group number that a conditional names. -/
  lastConditional : Nat := 0
  sawLoop : Bool := false
  sawUnboundedLookbehind : Bool := false
deriving Inhabited

abbrev ReaderM := StateT Reader (Except Refusal)

namespace Reader

def malformed : ReaderM α := throw .malformed

def peek : ReaderM (Option Token) := return (← get).rest.head?

/-- Moving on to a dangling backslash is an error. -/
def checkHead : ReaderM Unit := do
  if (← get).rest.head? = some .dangling then malformed

def skip : ReaderM Unit := do
  modify fun r => { r with rest := r.rest.tail }
  checkHead

def next : ReaderM (Option Token) := do
  let t ← peek
  skip
  return t

def accept (c : Char) : ReaderM Bool := do
  if (← peek) = some (.plain c) then
    skip
    return true
  else return false

def expect (c : Char) : ReaderM Unit := do
  unless ← accept c do malformed

/-- At most `n` characters of a class. -/
def takeUpTo (p : Char → Bool) : Nat → ReaderM (List Char)
  | 0 => return []
  | n + 1 => do
    match ← peek with
    | some (.plain c) =>
      if p c then
        skip
        return c :: (← takeUpTo p n)
      else return []
    | _ => return []

def takeAll (p : Char → Bool) : ReaderM (List Char) := do
  takeUpTo p (← get).rest.length

/-- The name before a closing character, which is read too; it may not be empty, and no name has a
surrogate. -/
def takeUntil (stop : Char) : Nat → List Char → ReaderM (List Char)
  | 0, _ => malformed
  | fuel + 1, before => do
    match ← next with
    | none => malformed
    | some t =>
      if t = .plain stop then
        if before.isEmpty then malformed else return before
      else
        match t.text? with
        | some cs => takeUntil stop fuel (before ++ cs)
        | none => malformed

def nameUntil (stop : Char) : ReaderM (List Char) := do
  takeUntil stop ((← get).rest.length + 1) []

def skipPast (stop : Token) (fuel : Nat) : ReaderM Bool :=
  match fuel with
  | 0 => return false
  | fuel + 1 => do
    match ← next with
    | none => return false
    | some t => if t = stop then return true else skipPast stop fuel

end Reader

open Reader

def groupCount : ReaderM Nat := return (← get).groups.length + 1

def groupWidth? (g : Nat) : ReaderM (Option Width) := do
  if g = 0 then return none else return ((← get).groups[g - 1]?).join

def openGroup (name : Option String) : ReaderM Nat := do
  let g ← groupCount
  modify fun r => { r with groups := r.groups ++ [none] }
  if let some n := name then
    if ((← get).names.lookup n).isSome then malformed
    modify fun r => { r with names := (n, g) :: r.names }
  return g

def widths (r : Reader) (g : Nat) : Width := ((r.groups[g - 1]?).join).getD .zero

def closeGroup (g : Nat) (body : Node) : ReaderM Unit :=
  modify fun r => { r with groups := r.groups.set (g - 1) (some (body.width (widths r))) }

/-- Inside a lookbehind only groups that were closed before it may be referred to. -/
def checkLookbehind (g : Nat) : ReaderM Unit := do
  if let some limit := (← get).groupsBeforeLookbehind then
    if (← groupWidth? g).isNone then malformed
    if limit ≤ g then malformed

def reference (g : Nat) : ReaderM Node := do
  if (← groupCount) ≤ g then malformed
  if (← groupWidth? g).isNone then malformed
  checkLookbehind g
  return .backreference g

def isOctalDigit (c : Char) : Bool := '0' ≤ c && c ≤ '7'

def isDecimalDigit (c : Char) : Bool := '0' ≤ c && c ≤ '9'

def isAsciiLetter (c : Char) : Bool := ('a' ≤ c && c ≤ 'z') || ('A' ≤ c && c ≤ 'Z')

def numberOf (base : Nat) (digits : List Char) : Nat :=
  digits.foldl (fun n c => base * n + (Text.hexValue? c).getD 0) 0

def hexEscape (count : Nat) : ReaderM Nat := do
  let digits ← takeUpTo Text.isHexDigit count
  if digits.length < count then malformed
  let n := numberOf 16 digits
  if 0x10ffff < n then malformed
  return n

def namedEscape : ReaderM Nat := do
  expect '\x7b'
  let name ← nameUntil '\x7d'
  match Text.characterNamed? (String.ofList name) with
  | some c => return c
  | none => malformed

def controlEscape? : Char → Option Nat
  | 'a' => some 0x07
  | 'b' => some 0x08
  | 'f' => some 0x0c
  | 'n' => some 0x0a
  | 'r' => some 0x0d
  | 't' => some 0x09
  | 'v' => some 0x0b
  | '\\' => some 0x5c
  | _ => none

def categoryEscape? : Char → Option (Bool × Category)
  | 'd' => some (false, .digit)
  | 'D' => some (true, .digit)
  | 's' => some (false, .blank)
  | 'S' => some (true, .blank)
  | 'w' => some (false, .word)
  | 'W' => some (true, .word)
  | _ => none

def anchorEscape? : Char → Option Anchor
  | 'A' => some .textStart
  | 'b' => some .wordBoundary
  | 'B' => some .notWordBoundary
  | 'Z' => some .textEnd
  | _ => none

/-- The escapes that name a code point both inside and outside sets. -/
def codeEscape? : Char → Option (ReaderM Nat)
  | 'x' => some (hexEscape 2)
  | 'u' => some (hexEscape 4)
  | 'U' => some (hexEscape 8)
  | 'N' => some namedEscape
  | _ => none

/-- A letter that stands for nothing may not be escaped. -/
def literalEscape (c : Char) : ReaderM Nat :=
  if isAsciiLetter c then malformed else return c.toNat

def setEscape (c : Char) : ReaderM SetItem := do
  match controlEscape? c, categoryEscape? c, codeEscape? c with
  | some n, _, _ => return .char n
  | _, some (negated, k), _ => return .category negated k
  | _, _, some code => return .char (← code)
  | _, _, _ =>
    if isOctalDigit c then
      let n := numberOf 8 (c :: (← takeUpTo isOctalDigit 2))
      if 0o377 < n then malformed
      return .char n
    else if isDecimalDigit c then malformed
    else return .char (← literalEscape c)

/-- Digits after a backslash are an octal code when they start with zero or when there are three
octal ones, and a reference to a group otherwise. -/
def digitEscape (c : Char) : ReaderM Node := do
  if c = '0' then return .char (numberOf 8 (c :: (← takeUpTo isOctalDigit 2)))
  match ← takeUpTo isDecimalDigit 1 with
  | [d] =>
    if isOctalDigit c && isOctalDigit d then
      match ← takeUpTo isOctalDigit 1 with
      | [e] =>
        let n := numberOf 8 [c, d, e]
        if 0o377 < n then malformed
        return .char n
      | _ => reference (numberOf 10 [c, d])
    else reference (numberOf 10 [c, d])
  | _ => reference (numberOf 10 [c])

def escape (c : Char) : ReaderM Node := do
  match anchorEscape? c, categoryEscape? c, controlEscape? c, codeEscape? c with
  | some a, _, _, _ => return .anchor a
  | _, some (negated, k), _, _ => return .set false [.category negated k]
  | _, _, some n, _ => return .char n
  | _, _, _, some code => return .char (← code)
  | _, _, _, _ =>
    if isDecimalDigit c then digitEscape c else return .char (← literalEscape c)

/-- One member of a set, which may be the end of a range. -/
def setMember : Token → ReaderM SetItem
  | .plain c => return .char c.toNat
  | .escaped c => setEscape c
  | .surrogate half => return .char half.toNat
  | .dangling => malformed

/-- The items of a set; the first one may be a closing bracket. -/
def setItems : Nat → List SetItem → ReaderM (List SetItem)
  | 0, _ => malformed
  | fuel + 1, before => do
    match ← next with
    | none => malformed
    | some t =>
      if t = .plain ']' ∧ before ≠ [] then return before
      let item ← setMember t
      if ← accept '-' then
        match ← next with
        | none => malformed
        | some t' =>
          if t' = .plain ']' then return before ++ [item, .char '-'.toNat]
          match item, ← setMember t' with
          | .char lo, .char hi =>
            if hi < lo then malformed
            setItems fuel (before ++ [.range lo hi])
          | _, _ => malformed
      else setItems fuel (before ++ [item])

def bracketSet : ReaderM Node := do
  let negated ← accept '^'
  let here ← get
  let items := (← setItems (here.rest.length + 1) []).eraseDups
  match items with
  | [.char c] => return if negated then .notChar c else .char c
  | _ => return .set negated items

def repetitionLimit : Nat := 0xffffffff

def repetitionCount? (digits : List Char) : ReaderM (Option Nat) := do
  if digits.isEmpty then return none
  if 4300 < digits.length then throw .numberTooLong
  let n := numberOf 10 digits
  if repetitionLimit ≤ n then throw .repetitionTooLarge
  return some n

/-- The bounds in braces, whose opening one was read; `none` means that it stands for itself. -/
def braces : ReaderM (Option (Nat × Option Nat)) := do
  if (← peek) = some (.plain '\x7d') then return none
  let here ← get
  let lo ← takeAll isDecimalDigit
  let hi ← if ← accept ',' then takeAll isDecimalDigit else pure lo
  if ← accept '\x7d' then
    let least ← repetitionCount? lo
    let most ← repetitionCount? hi
    if let some m := most then
      if m < least.getD 0 then malformed
    return some (least.getD 0, most)
  else
    set here
    return none

/-- What was read last in a sequence: a node or the parts of a plain group. -/
inductive Piece where
  | node (n : Node)
  | group (parts : List Node)

def Piece.parts : Piece → List Node
  | node n => [n]
  | group parts => parts

def appetiteMark : ReaderM Appetite := do
  if ← accept '?' then return .lazy
  if ← accept '+' then return .possessive
  return .greedy

/-- Puts bounds on the last piece. Anchors and loops themselves take none. -/
def repeatLast (least : Nat) (most : Option Nat) (pieces : List Piece) : ReaderM (List Piece) := do
  match pieces with
  | [] => malformed
  | piece :: before =>
    if let .node n := piece then
      if n.isAnchor || n.isLoop then malformed
    let appetite ← appetiteMark
    modify fun r => { r with sawLoop := true }
    return .node (.loop least most appetite (.seq piece.parts)) :: before

def optionOf? : Char → Option Options
  | 'i' => some { ignoreCase := true }
  | 'm' => some { multiline := true }
  | 's' => some { dotAll := true }
  | 'x' => some { verbose := true }
  | 'a' => some { ascii := true }
  | 'u' => some { unicode := true }
  | 't' => some { template := true }
  | _ => none

/-- The letters that turn options on, up to the character that ends them. -/
def optionsOn : Nat → Char → Options → ReaderM (Options × Char)
  | 0, _, _ => malformed
  | fuel + 1, c, before => do
    match optionOf? c with
    | none => malformed
    | some o =>
      let on := before.union o
      if on.ascii && on.unicode then malformed
      match ← next with
      | some (.plain d) =>
        if d = ')' ∨ d = ':' ∨ d = '-' then return (on, d) else optionsOn fuel d on
      | _ => malformed

/-- The letters that turn options off, up to the colon. -/
def optionsOff : Nat → Options → ReaderM Options
  | 0, _ => malformed
  | fuel + 1, before => do
    match ← next with
    | some (.plain c) =>
      match optionOf? c with
      | none => malformed
      | some o =>
        if o.choosesAlphabet then malformed
        let off := before.union o
        if ← accept ':' then return off else optionsOff fuel off
    | _ => malformed

/-- Options for the whole pattern, or those that a group turns on and off. -/
def optionMarks (c : Char) : ReaderM (Option (Options × Options)) := do
  let fuel := (← get).rest.length + 2
  let (on, stop) ← if c = '-' then pure (Options.none, '-') else optionsOn fuel c .none
  if stop = ')' then
    modify fun r => { r with options := r.options.union on }
    return none
  if on.template then malformed
  let off ← if stop = '-' then optionsOff fuel .none else pure .none
  if off.template || on.overlaps off then malformed
  return some (on, off)

/-- A group number in a conditional: an optional plus sign and digits of any script, which single
low lines may part, with blanks around. -/
def writtenNumber? (cs : List Char) : Option Nat :=
  let trimmed := (Text.trim (String.ofList cs)).toList
  let digits := match trimmed with
    | '+' :: rest => rest
    | _ => trimmed
  if 4300 < (digits.filter (· ≠ '_')).length then none else go digits none
where
  go : List Char → Option Nat → Option Nat
    | [], n => n
    | '_' :: c :: rest, some n => (Text.digitValue? c).bind fun d => go rest (some (10 * n + d))
    | c :: rest, n => (Text.digitValue? c).bind fun d => go rest (some (10 * n.getD 0 + d))

def conditionalGroup (cs : List Char) : ReaderM Nat := do
  if Text.isName cs then
    match (← get).names.lookup (String.ofList cs) with
    | some g => return g
    | none => malformed
  else
    match writtenNumber? cs with
    | none | some 0 => malformed
    | some g =>
      modify fun r => { r with lastConditional := max r.lastConditional g }
      return g

def groupName (stop : Char) : ReaderM String := do
  let cs ← nameUntil stop
  if Text.isName cs then return String.ofList cs else malformed

def commonHead? : List (List Node) → Option Node
  | [] => none
  | first :: others =>
    match first with
    | [] => none
    | n :: _ =>
      if others.all fun alternative => match alternative with
        | m :: _ => n.sameLeaf m
        | [] => false
      then some n else none

/-- Leaves that all alternatives start with, and the alternatives without them. -/
def factor : Nat → List (List Node) → List Node × List (List Node)
  | 0, alternatives => ([], alternatives)
  | fuel + 1, alternatives =>
    match commonHead? alternatives with
    | none => ([], alternatives)
    | some n =>
      let (shared, rest) := factor fuel (alternatives.map List.tail)
      (n :: shared, rest)

/-- The members of an alternative that is one character or one set. -/
def asSet? : List Node → Option (List SetItem)
  | [.char c] => some [.char c]
  | [.set false items] => some items
  | _ => none

def joinAlternatives : List (List Node) → Node
  | [] => .empty
  | [a] => .seq a
  | a :: rest => .alt (.seq a) (joinAlternatives rest)

/-- Alternatives of single characters make up a set. -/
def alternation : List (List Node) → List Node
  | [only] => only
  | alternatives =>
    let (shared, rest) := factor ((alternatives.map List.length).foldl max 0) alternatives
    match rest.mapM asSet? with
    | some items => shared ++ [.set false items.flatten.eraseDups]
    | none => shared ++ [joinAlternatives rest]

/-- White space and comments that verbose patterns skip. -/
def isPatternSpace (c : Char) : Bool :=
  c == ' ' || c == '\t' || c == '\n' || c == '\r' || c == '\x0b' || c == '\x0c'

mutual

/-- Alternatives up to a closing parenthesis or the end. `outermost` marks the whole pattern. -/
def alternatives : Nat → (verbose outermost : Bool) → ReaderM (List Node)
  | 0, _, _ => malformed
  | fuel + 1, verbose, outermost => do
    let first ← sequence fuel verbose outermost []
    let rest ← moreAlternatives fuel verbose outermost
    return alternation (first :: rest)

def moreAlternatives : Nat → (verbose outermost : Bool) → ReaderM (List (List Node))
  | 0, _, _ => malformed
  | fuel + 1, verbose, outermost => do
    if ← accept '|' then
      let r ← get
      let verbose := if outermost then r.options.verbose else verbose
      let here ← sequence fuel verbose false []
      let rest ← moreAlternatives fuel verbose outermost
      return here :: rest
    else return []

/-- The nodes up to a bar, a closing parenthesis or the end. `pieces` holds what was read, last
first; options for the whole pattern may only stand before anything else. -/
def sequence : Nat → (verbose optionsAllowed : Bool) → List Piece → ReaderM (List Node)
  | 0, _, _, _ => malformed
  | fuel + 1, verbose, optionsAllowed, pieces => do
    let node (n : Node) : ReaderM (List Node) :=
      sequence fuel verbose optionsAllowed (.node n :: pieces)
    match ← peek with
    | none => return (pieces.reverse.map Piece.parts).flatten
    | some (.escaped c) =>
      skip
      node (← escape c)
    | some (.surrogate half) =>
      skip
      node (.char half.toNat)
    | some .dangling => malformed
    | some (.plain c) =>
      if c = '|' ∨ c = ')' then return (pieces.reverse.map Piece.parts).flatten
      skip
      if verbose && isPatternSpace c then sequence fuel verbose optionsAllowed pieces
      else if verbose && c = '#' then
        let _ ← skipPast (.plain '\n') ((← get).rest.length + 1)
        sequence fuel verbose optionsAllowed pieces
      else if c = '[' then node (← bracketSet)
      else if c = '.' then node .any
      else if c = '^' then node (.anchor .lineStart)
      else if c = '$' then node (.anchor .lineEnd)
      else if c = '(' then group fuel verbose optionsAllowed pieces
      else if c = '*' then
        sequence fuel verbose optionsAllowed (← repeatLast 0 none pieces)
      else if c = '+' then
        sequence fuel verbose optionsAllowed (← repeatLast 1 none pieces)
      else if c = '?' then
        sequence fuel verbose optionsAllowed (← repeatLast 0 (some 1) pieces)
      else if c = '\x7b' then
        match ← braces with
        | none => node (.char c.toNat)
        | some (least, most) =>
          sequence fuel verbose optionsAllowed (← repeatLast least most pieces)
      else node (.char c.toNat)

/-- A parenthesis, whose opening was read, and the rest of its sequence. -/
def group : Nat → (verbose optionsAllowed : Bool) → List Piece → ReaderM (List Node)
  | 0, _, _, _ => malformed
  | fuel + 1, verbose, optionsAllowed, pieces => do
    let goOn (piece : Piece) : ReaderM (List Node) :=
      sequence fuel verbose optionsAllowed (piece :: pieces)
    let captured (name : Option String) : ReaderM Piece := do
      let g ← openGroup name
      let body := Node.seq (← alternatives fuel verbose false)
      expect ')'
      closeGroup g body
      return .node (.capture g body)
    if ← accept '?' then
      match ← next with
      | some (.plain 'P') =>
        if ← accept '<' then goOn (← captured (some (← groupName '>')))
        else if ← accept '=' then
          let name ← groupName ')'
          match (← get).names.lookup name with
          | none => malformed
          | some g => goOn (.node (← reference g))
        else malformed
      | some (.plain ':') =>
        let parts ← alternatives fuel verbose false
        expect ')'
        goOn (.group parts)
      | some (.plain '>') =>
        let parts ← alternatives fuel verbose false
        expect ')'
        goOn (.node (.atomic (.seq parts)))
      | some (.plain '#') =>
        if ← skipPast (.plain ')') ((← get).rest.length + 1) then
          sequence fuel verbose optionsAllowed pieces
        else malformed
      | some (.plain '=') => goOn (.node (.lookahead false (← assertion fuel verbose)))
      | some (.plain '!') => goOn (.node (.lookahead true (← assertion fuel verbose)))
      | some (.plain '<') =>
        match ← next with
        | some (.plain '=') => goOn (.node (← behind fuel verbose false))
        | some (.plain '!') => goOn (.node (← behind fuel verbose true))
        | _ => malformed
      | some (.plain '(') =>
        let g ← conditionalGroup (← nameUntil ')')
        checkLookbehind g
        let yes ← sequence fuel verbose false []
        let no ← if ← accept '|' then sequence fuel verbose false [] else pure []
        expect ')'
        goOn (.node (.conditional g (.seq yes) (.seq no)))
      | some (.plain c) =>
        match ← optionMarks c with
        | none =>
          if !optionsAllowed || !pieces.isEmpty then malformed
          sequence fuel (← get).options.verbose optionsAllowed pieces
        | some (on, off) =>
          let inside := (verbose || on.verbose) && !off.verbose
          let parts ← alternatives fuel inside false
          expect ')'
          goOn (.node (.within on off (.seq parts)))
      | _ => malformed
    else goOn (← captured none)

def assertion : Nat → (verbose : Bool) → ReaderM Node
  | 0, _ => malformed
  | fuel + 1, verbose => do
    let parts ← alternatives fuel verbose false
    expect ')'
    return .seq parts

/-- A lookbehind has to match a fixed number of characters. -/
def behind : Nat → (verbose negated : Bool) → ReaderM Node
  | 0, _, _ => malformed
  | fuel + 1, verbose, negated => do
    let outer := (← get).groupsBeforeLookbehind
    if outer.isNone then
      let count ← groupCount
      modify fun r => { r with groupsBeforeLookbehind := some count }
    let body := Node.seq (← alternatives fuel verbose false)
    modify fun r => { r with groupsBeforeLookbehind := outer }
    expect ')'
    let width := body.width (widths (← get))
    if width.most ≠ some width.least ∨ 0x100000000 ≤ width.least then
      modify fun r => { r with sawUnboundedLookbehind := true }
    return .lookbehind negated width.least body

end

/-- A whole pattern. What concerns the tree as a whole is checked after it was read. -/
def wholePattern : ReaderM Pattern := do
  checkHead
  let start ← get
  let parts ← alternatives (4 * start.rest.length + 8) start.options.verbose true
  let r ← get
  if r.options.ascii && r.options.unicode then throw .conflictingAlphabets
  if !r.rest.isEmpty then malformed
  if r.groups.length < r.lastConditional then malformed
  if r.sawUnboundedLookbehind then malformed
  if r.options.template && r.sawLoop then malformed
  return { root := .seq parts, options := { r.options with unicode := !r.options.ascii } }

/-- Reads a pattern under options that hold from its start. -/
def ofText (options : Options) (source : RawText) : Except Refusal Pattern :=
  (wholePattern.run { rest := tokens source.points, options }).map Prod.fst

end FileShare.Pattern

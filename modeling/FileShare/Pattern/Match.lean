import FileShare.Pattern.CharSet
import FileShare.Pattern.Parser
import FileShare.Pattern.Start

/-! # Searching texts for patterns

Matching tries alternatives in order and goes back to the last choice when the rest fails. The rest
of the match is a function of the state, so each node is matched by structural recursion. Loops run
on fuel: past the least count an iteration starts only where the one before it did not, and
positions never fall, so the characters that are left bound the number of iterations.
-/
namespace FileShare.Pattern

/-- A position and the marks set by groups: twice the group number for its start, one more for its
end. -/
structure State where
  pos : Nat
  marks : List (Nat × Nat) := []
deriving Inhabited

namespace State

def mark (s : State) (slot : Nat) : State :=
  { s with marks := (slot, s.pos) :: s.marks.filter (·.1 ≠ slot) }

def span? (s : State) (group : Nat) : Option (Nat × Nat) := do
  let first ← s.marks.lookup (2 * group)
  let last ← s.marks.lookup (2 * group + 1)
  if first ≤ last then some (first, last) else none

end State

abbrev Rest := State → Option State

/-- A matcher goes from a state to the end of the whole match. -/
abbrev Matcher := State → Rest → Option State

section
variable (text : Array Char)

def codeAt? (i : Nat) : Option Nat := (text[i]?).map Char.toNat

def matchChar (p : Nat → Bool) : Matcher := fun s k =>
  match codeAt? text s.pos with
  | some x => if p x then k { s with pos := s.pos + 1 } else none
  | none => none

def isWordAt (o : Options) (i : Nat) : Bool :=
  match codeAt? text i with
  | some x => Category.word.holds o x
  | none => false

/-- The characters on both sides of a position differ in being word characters. -/
def atBoundary (o : Options) (i : Nat) : Bool :=
  (i != 0 && isWordAt text o (i - 1)) != isWordAt text o i

def Anchor.holds (o : Options) (i : Nat) : Anchor → Bool
  | textStart => i == 0
  | textEnd => i == text.size
  | lineStart => i == 0 || (o.multiline && text[i - 1]? == some '\n')
  | lineEnd =>
    i == text.size ||
      (text[i]? == some '\n' && (o.multiline || i + 1 == text.size))
  | wordBoundary => text.size != 0 && atBoundary text o i
  | notWordBoundary => text.size != 0 && !atBoundary text o i

/-- The text of a group once more. -/
def matchAgain (o : Options) (group : Nat) : Matcher := fun s k =>
  match s.span? group with
  | none => none
  | some (first, last) =>
    let same (i : Nat) : Bool :=
      match codeAt? text (first + i), codeAt? text (s.pos + i) with
      | some c, some x =>
        if o.ignoreCase then foldCode o c == foldCode o x else c == x
      | _, _ => false
    if (List.range (last - first)).all same then k { s with pos := s.pos + (last - first) }
    else none

end

def iterate (step : Matcher) : Nat → Matcher
  | 0, s, k => k s
  | n + 1, s, k => step s fun s' => iterate step n s' k

/-- As many iterations as possible, then fewer. `last` is where the iteration before started. -/
def greedily (step : Matcher) : Nat → Option Nat → Option Nat → Matcher
  | 0, _, _, s, k => k s
  | fuel + 1, left, last, s, k =>
    if left = some 0 ∨ last = some s.pos then k s
    else
      match step s fun s' => greedily step fuel (left.map (· - 1)) (some s.pos) s' k with
      | some e => some e
      | none => k s

def lazily (step : Matcher) : Nat → Option Nat → Option Nat → Matcher
  | 0, _, _, s, k => k s
  | fuel + 1, left, last, s, k =>
    match k s with
    | some e => some e
    | none =>
      if left = some 0 ∨ last = some s.pos then none
      else step s fun s' => lazily step fuel (left.map (· - 1)) (some s.pos) s' k

/-- Exactly `n` iterations, each of which keeps its first match. -/
def iteratePossessively (step : Matcher) : Nat → Rest
  | 0, s => some s
  | n + 1, s =>
    match step s some with
    | some s' => iteratePossessively step n s'
    | none => none

/-- As many iterations as possible, each of which keeps its first match. -/
def possessively (step : Matcher) : Nat → Option Nat → Option Nat → State → State
  | 0, _, _, s => s
  | fuel + 1, left, last, s =>
    if left = some 0 ∨ last = some s.pos then s
    else
      match step s some with
      | some s' => possessively step fuel (left.map (· - 1)) (some s.pos) s'
      | none => s

def countRun (p : Nat → Bool) (text : Array Char) : Nat → Nat → Nat
  | 0, _ => 0
  | fuel + 1, i =>
    match codeAt? text i with
    | some x => if p x then countRun p text fuel (i + 1) + 1 else 0
    | none => 0

/-- Tries the rest after `least + n` characters, then after one less, down to `least`. -/
def backOff (least : Nat) (s : State) (k : Rest) : Nat → Option State
  | 0 => k { s with pos := s.pos + least }
  | n + 1 =>
    match k { s with pos := s.pos + least + (n + 1) } with
    | some e => some e
    | none => backOff least s k n

namespace Node

def charTest? (o : Options) : Node → Option (Nat → Bool)
  | char c => some (sameChar o c)
  | notChar c => some fun x => !sameChar o c x
  | any => some fun x => o.dotAll || x != 0x0a
  | set negated items => some (holdsSet o negated items)
  | _ => none

/-- Bounds `least` and `most` on iterations of a matcher. -/
def runLoop (text : Array Char) (step : Matcher) (least : Nat) (most : Option Nat)
    (appetite : Appetite) : Matcher := fun s k =>
  let fuel := text.size + 2
  let extra := most.map (· - least)
  match appetite with
  | .greedy => iterate step least s fun s' => greedily step fuel extra none s' k
  | .lazy => iterate step least s fun s' => lazily step fuel extra none s' k
  | .possessive =>
    match iteratePossessively step least s with
    | some s' => k (possessively step fuel extra none s')
    | none => none

/-- A greedy loop over one character needs no recursion into the rest while it counts. -/
def runCharLoop (text : Array Char) (p : Nat → Bool) (least : Nat) (most : Option Nat) :
    Matcher := fun s k =>
  let left := text.size - s.pos
  let n := countRun p text (match most with | some m => min m left | none => left) s.pos
  if n < least then none else backOff least s k (n - least)

def run (text : Array Char) : Node → Options → Matcher
  | empty, _, s, k => k s
  | char c, o, s, k => matchChar text (sameChar o c) s k
  | notChar c, o, s, k => matchChar text (fun x => !sameChar o c x) s k
  | any, o, s, k => matchChar text (fun x => o.dotAll || x != 0x0a) s k
  | set negated items, o, s, k => matchChar text (holdsSet o negated items) s k
  | anchor a, o, s, k => if a.holds text o s.pos then k s else none
  | backreference g, o, s, k => matchAgain text o g s k
  | cat a b, o, s, k => a.run text o s fun s' => b.run text o s' k
  | alt a b, o, s, k =>
    match a.run text o s k with
    | some e => some e
    | none => b.run text o s k
  | loop least most appetite body, o, s, k =>
    match appetite, body.charTest? o with
    | .greedy, some p => runCharLoop text p least most s k
    | _, _ => runLoop text (fun s' k' => body.run text o s' k') least most appetite s k
  | capture g body, o, s, k =>
    body.run text o (s.mark (2 * g)) fun s' => k (s'.mark (2 * g + 1))
  | within on off body, o, s, k => body.run text (o.change on off) s k
  | atomic body, o, s, k =>
    match body.run text o s some with
    | some s' => k s'
    | none => none
  | lookahead negated body, o, s, k =>
    match body.run text o s some, negated with
    | some s', false => k { s' with pos := s.pos }
    | none, true => k s
    | _, _ => none
  | lookbehind negated back body, o, s, k =>
    let found := if s.pos < back then none else body.run text o { s with pos := s.pos - back } some
    match found, negated with
    | some s', false => k { s' with pos := s.pos }
    | none, true => k s
    | _, _ => none
  | conditional g yes no, o, s, k =>
    if (s.span? g).isSome then yes.run text o s k else no.run text o s k

end Node

def mayStart (p : Pattern) (text : Array Char) (i : Nat) : Bool :=
  match startTest? p, codeAt? text i with
  | some test, some x => test x
  | _, _ => true

def foundIn (p : Pattern) (text : String) : Bool :=
  let chars := text.toList.toArray
  (List.range (chars.size + 1)).any fun i =>
    mayStart p chars i && (p.root.run chars p.options { pos := i } some).isSome

end FileShare.Pattern

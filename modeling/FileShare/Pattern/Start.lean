import FileShare.Pattern.CharSet

/-! # Where a match may start

If a set of characters without case stands at the start of a pattern, a search only looks at places
whose character is in the set. There the categories of the set are read under the options of
the whole pattern, also if the set stands in a part that has chosen another alphabet; so such a
part can only match what belongs to the set under both alphabets.
-/
namespace FileShare.Pattern

/-- The set at the start of every match, with the options that hold there. -/
def Node.leadingSet? : Node → Options → Option (Bool × List SetItem × Options)
  | set negated items, o => some (negated, items, o)
  | cat a _, o => a.leadingSet? o
  | capture _ body, o => body.leadingSet? o
  | within on off body, o => body.leadingSet? (o.change on off)
  | _, _ => none

def isCased (o : Options) (n : Nat) : Bool :=
  if o.unicode then Text.lowerCode n != n || Text.upperCode n != n
  else (0x41 ≤ n && n ≤ 0x5a) || (0x61 ≤ n && n ≤ 0x7a)

def SetItem.isCaseless (o : Options) : SetItem → Bool
  | char c => !isCased o c
  | range first last =>
    last ≤ basicPlaneEnd && (List.range (last + 1 - first)).all fun i => !isCased o (first + i)
  | category .. => true

/-- The test on the first character, where it is not implied by the match. -/
def startTest? (p : Pattern) : Option (Nat → Bool) :=
  match p.root.leadingSet? p.options with
  | none => none
  | some (negated, items, o) =>
    if o.unicode == p.options.unicode then none
    else if o.ignoreCase && !items.all (·.isCaseless o) then none
    else some (holdsSet { p.options with ignoreCase := false } negated items)

end FileShare.Pattern

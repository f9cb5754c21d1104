/-! # Patterns

A pattern is a tree of the things it may match. Characters are code points, because a pattern may
name one that no text can hold. Options change inside marked parts of the tree; outside them the
pattern's own options hold.
-/
namespace FileShare.Pattern

structure Options where
  ignoreCase : Bool := false
  multiline : Bool := false
  dotAll : Bool := false
  verbose : Bool := false
  ascii : Bool := false
  unicode : Bool := false
  template : Bool := false
deriving DecidableEq, Repr, Inhabited

namespace Options

def none : Options := {}

def union (o p : Options) : Options where
  ignoreCase := o.ignoreCase || p.ignoreCase
  multiline := o.multiline || p.multiline
  dotAll := o.dotAll || p.dotAll
  verbose := o.verbose || p.verbose
  ascii := o.ascii || p.ascii
  unicode := o.unicode || p.unicode
  template := o.template || p.template

def without (o p : Options) : Options where
  ignoreCase := o.ignoreCase && !p.ignoreCase
  multiline := o.multiline && !p.multiline
  dotAll := o.dotAll && !p.dotAll
  verbose := o.verbose && !p.verbose
  ascii := o.ascii && !p.ascii
  unicode := o.unicode && !p.unicode
  template := o.template && !p.template

def overlaps (o p : Options) : Bool :=
  (o.ignoreCase && p.ignoreCase) || (o.multiline && p.multiline) || (o.dotAll && p.dotAll) ||
  (o.verbose && p.verbose) || (o.ascii && p.ascii) || (o.unicode && p.unicode) ||
  (o.template && p.template)

/-- The character properties are either those of ASCII or those of Unicode. -/
def choosesAlphabet (o : Options) : Bool := o.ascii || o.unicode

/-- Options inside a part that turns some on and some off; a choice of alphabet replaces the old. -/
def change (o on off : Options) : Options :=
  let base := if on.choosesAlphabet then { o with ascii := false, unicode := false } else o
  (base.union on).without off

end Options

inductive Category where
  | digit
  | blank
  | word
deriving DecidableEq, Repr

inductive SetItem where
  | char (c : Nat)
  | range (first last : Nat)
  | category (negated : Bool) (k : Category)
deriving DecidableEq, Repr

inductive Anchor where
  | lineStart
  | lineEnd
  | textStart
  | textEnd
  | wordBoundary
  | notWordBoundary
deriving DecidableEq, Repr

inductive Appetite where
  | greedy
  | lazy
  | possessive
deriving DecidableEq, Repr

inductive Node where
  | empty
  | char (c : Nat)
  | notChar (c : Nat)
  | any
  | set (negated : Bool) (items : List SetItem)
  | anchor (a : Anchor)
  | backreference (group : Nat)
  | cat (a b : Node)
  | alt (a b : Node)
  /-- A missing `most` is no bound. -/
  | loop (least : Nat) (most : Option Nat) (appetite : Appetite) (body : Node)
  | capture (group : Nat) (body : Node)
  | within (on off : Options) (body : Node)
  | atomic (body : Node)
  | lookahead (negated : Bool) (body : Node)
  /-- The body is matched `back` characters before the position. -/
  | lookbehind (negated : Bool) (back : Nat) (body : Node)
  /-- Goes on with `yes` if the group has matched, else with `no`. -/
  | conditional (group : Nat) (yes no : Node)
deriving Repr, Inhabited

namespace Node

def seq : List Node → Node
  | [] => empty
  | [n] => n
  | n :: m :: rest => cat n (seq (m :: rest))

/-- Leaves of the tree may be compared; other nodes count as different. -/
def sameLeaf : Node → Node → Bool
  | char c, char d => c == d
  | notChar c, notChar d => c == d
  | any, any => true
  | set n xs, set m ys => n == m && xs == ys
  | anchor a, anchor b => a == b
  | backreference g, backreference h => g == h
  | _, _ => false

def isAnchor : Node → Bool
  | anchor _ => true
  | _ => false

def isLoop : Node → Bool
  | loop .. => true
  | _ => false

end Node

/-- The least and the greatest number of characters; a missing `most` is no bound. -/
structure Width where
  least : Nat
  most : Option Nat
deriving DecidableEq, Repr, Inhabited

namespace Width

def zero : Width := ⟨0, some 0⟩

def one : Width := ⟨1, some 1⟩

def addMost : Option Nat → Option Nat → Option Nat
  | some a, some b => some (a + b)
  | _, _ => none

def add (v w : Width) : Width := ⟨v.least + w.least, addMost v.most w.most⟩

def orElse (v w : Width) : Width :=
  ⟨min v.least w.least, match v.most, w.most with
    | some a, some b => some (max a b)
    | _, _ => none⟩

def times (w : Width) (least : Nat) (most : Option Nat) : Width :=
  ⟨w.least * least, match w.most, most with
    | some 0, _ => some 0
    | some a, some b => some (a * b)
    | none, some 0 => some 0
    | _, _ => none⟩

end Width

/-- The width of a node, given the widths of the groups that it refers to. -/
def Node.width (groups : Nat → Width) : Node → Width
  | empty | anchor _ | lookahead .. | lookbehind .. => .zero
  | char _ | notChar _ | any | set .. => .one
  | backreference g => groups g
  | cat a b => (a.width groups).add (b.width groups)
  | alt a b => (a.width groups).orElse (b.width groups)
  | loop least most _ body => (body.width groups).times least most
  | capture _ body | within _ _ body | atomic body => body.width groups
  | conditional _ yes no => (yes.width groups).orElse (no.width groups)

end FileShare.Pattern

/-- A pattern that was read: its tree and the options that hold for all of it. -/
structure FileShare.Pattern where
  root : Pattern.Node
  options : Pattern.Options
deriving Repr, Inhabited

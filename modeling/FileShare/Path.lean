import FileShare.Text.Split

/-! # Paths

A path is a root, made of no, one or two slashes, and segments. Empty segments and single dots
vanish when a path is read; a pair of dots stays, because it may cross a link.
-/
namespace FileShare

structure Path where
  root : String
  segments : List String
deriving DecidableEq, Repr

namespace Path

/-- Exactly two slashes at the start are a root of their own; three or more count as one. -/
def rootOf : List Char → String
  | '/' :: '/' :: '/' :: _ => "/"
  | '/' :: '/' :: _ => "//"
  | '/' :: _ => "/"
  | _ => ""

def ofText (s : String) : Path where
  root := rootOf s.toList
  segments := (Text.split '/' s).filter fun p => p ≠ "" && p ≠ "."

def isAbsolute (p : Path) : Bool := p.root ≠ ""

def toText (p : Path) : String :=
  if p.root = "" ∧ p.segments = [] then "." else p.root ++ "/".intercalate p.segments

/-- An absolute path on the right replaces the left one. -/
def join (p q : Path) : Path := if q.isAbsolute then q else ⟨p.root, p.segments ++ q.segments⟩

end Path
end FileShare

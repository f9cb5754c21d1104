import FileShare.Identifier
import FileShare.Store

/-! # The world of the operations -/
namespace FileShare

/-- The rows that are stored, and what the next identifier is made from. -/
structure World where
  store : Store := {}
  generator : Generator
deriving Repr

end FileShare

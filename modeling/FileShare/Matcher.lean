import FileShare.Json.Value

/-! # Matchers

A matcher is a conjunction of terms and, beside them, an optional group of which one term has to
hold. Terms speak of nodes as documents: a kind of node may lack a field.
-/
namespace FileShare

/-- How a range term compares the field with its value. -/
inductive Comparison where
  | above
  | below
  | atLeast
  | atMost
deriving DecidableEq, Repr

namespace Comparison

def symbol : Comparison → String
  | above => "$gt"
  | below => "$lt"
  | atLeast => "$gte"
  | atMost => "$lte"

def ofSymbol? (s : RawText) : Option Comparison :=
  [above, below, atLeast, atMost].find? fun c => RawText.text c.symbol = s

@[simp] theorem ofSymbol?_symbol (c : Comparison) : ofSymbol? c.symbol = some c := by
  cases c <;> rfl

theorem ofSymbol?_eq_some {s : RawText} {c : Comparison} :
    ofSymbol? s = some c ↔ s = .text c.symbol := by
  constructor
  · intro h
    simpa [eq_comm] using List.find?_some h
  · rintro rfl
    exact ofSymbol?_symbol c

def holds : Comparison → Ordering → Bool
  | above, o => o == .gt
  | below, o => o == .lt
  | atLeast, o => o != .lt
  | atMost, o => o != .gt

end Comparison

inductive Term where
  | equals (field : String) (value : Json)
  | range (field : String) (operator : String) (value : Number)
  | anyOf (field : String) (values : List RawText)
  | fits (field : String) (pattern : RawText)
  | granted (grantee level : String)
  | grantFits (grantee : String) (pattern : RawText)
deriving Repr

structure Matcher where
  terms : List Term := []
  alternatives : List Term := []
deriving Repr

/-- The field that holds a name in lower case. Matchers on names are about it. -/
def lowerNameField : String := "name-lowercase"

end FileShare

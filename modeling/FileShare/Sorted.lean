/-! # Sorting by insertion

The sort is stable: elements that the order does not part keep their places.
-/
namespace FileShare

/-- Puts `a` before the first element that it may precede. -/
def insertBy (le : α → α → Bool) (a : α) : List α → List α
  | [] => [a]
  | b :: rest => if le a b then a :: b :: rest else b :: insertBy le a rest

def sortBy (le : α → α → Bool) : List α → List α
  | [] => []
  | a :: rest => insertBy le a (sortBy le rest)

/-- Texts in order of their code points. -/
def sortTexts (texts : List String) : List String := sortBy (fun a b => decide (a ≤ b)) texts

end FileShare

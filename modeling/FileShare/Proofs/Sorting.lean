import FileShare.Sorted
import Mathlib.Data.List.Sort

/-! # Sorted lists

The sort is the insertion sort of the library, for an order that is computed.
-/
namespace FileShare
universe u v
variable {α : Type u} {β : Type v} {le : α → α → Bool}

theorem insertBy_eq_orderedInsert (le : α → α → Bool) (a : α) (l : List α) :
    insertBy le a l = l.orderedInsert (fun a b => le a b) a := by
  fun_induction insertBy le a l with
  | case1 => rfl
  | case2 b rest h => simp [h]
  | case3 b rest h ih => simp [h, ih]

theorem sortBy_eq_insertionSort (le : α → α → Bool) (l : List α) :
    sortBy le l = l.insertionSort fun a b => le a b := by
  induction l with
  | nil => rfl
  | cons a rest ih => rw [sortBy, ih, insertBy_eq_orderedInsert, List.insertionSort_cons]

theorem sortBy_perm (le : α → α → Bool) (l : List α) : (sortBy le l).Perm l :=
  sortBy_eq_insertionSort le l ▸ List.perm_insertionSort _ l

theorem mem_sortBy {l : List α} {a : α} : a ∈ sortBy le l ↔ a ∈ l := (sortBy_perm le l).mem_iff

theorem sortBy_map {le' : β → β → Bool} {f : α → β} (h : ∀ a b, le' (f a) (f b) = le a b)
    (l : List α) : sortBy le' (l.map f) = (sortBy le l).map f := by
  rw [sortBy_eq_insertionSort, sortBy_eq_insertionSort,
    List.map_insertionSort (r := fun a b => le a b) (s := fun a b => le' a b)]
  intro a _ b _
  rw [h]

theorem sortBy_eq_self {l : List α} (h : l.Pairwise fun a b => le a b) : sortBy le l = l :=
  (sortBy_eq_insertionSort le l).trans h.insertionSort_eq

/-! ## Order by a text -/

section Key
variable (key : α → String)

theorem sortBy_key_pairwise (l : List α) :
    (sortBy (fun a b => decide (key a ≤ key b)) l).Pairwise fun a b => key a ≤ key b := by
  have : Std.Total fun a b => key a ≤ key b := ⟨fun a b => String.le_total (key a) (key b)⟩
  have : IsTrans α fun a b => key a ≤ key b := ⟨fun _ _ _ => String.le_trans⟩
  simpa [sortBy_eq_insertionSort] using List.pairwise_insertionSort (fun a b => key a ≤ key b) l

theorem sortBy_key_descending (l : List α) :
    (sortBy (fun a b => decide (key b ≤ key a)) l).Pairwise fun a b => key b ≤ key a := by
  have : Std.Total fun a b => key b ≤ key a := ⟨fun a b => String.le_total (key b) (key a)⟩
  have : IsTrans α fun a b => key b ≤ key a := ⟨fun _ _ _ hab hbc => String.le_trans hbc hab⟩
  simpa [sortBy_eq_insertionSort] using List.pairwise_insertionSort (fun a b => key b ≤ key a) l

theorem sortBy_key_eq_self {l : List α} (h : l.Pairwise fun a b => key a ≤ key b) :
    sortBy (fun a b => decide (key a ≤ key b)) l = l :=
  sortBy_eq_self (h.imp decide_eq_true)

end Key

end FileShare

import FileShare.Proofs.Identifiers
import FileShare.Proofs.Sorting
import Mathlib.Data.List.Nodup

/-! # Pages below a cursor

Rows are read page by page in descending order of a key, and every page lies below the last row of
those before it. From one page to the next the rows may change in any way. A row that is there for
every page is returned already or still below the cursor, and it can stay below the cursor only as
long as pages are full.
-/
namespace FileShare

def DescendingBy {α : Type} (key : α → String) (rows : List α) : Prop :=
  rows.Pairwise fun a b => key b < key a

namespace DescendingBy
variable {α : Type} {key : α → String} {rows : List α}

theorem of_sort (h : (rows.map key).Nodup) :
    DescendingBy key (sortBy (fun a b => decide (key b ≤ key a)) rows) := by
  have hdistinct : (sortBy (fun a b => decide (key b ≤ key a)) rows).Pairwise
      fun a b => key a ≠ key b :=
    List.pairwise_map.mp (((sortBy_perm _ rows).map key).nodup_iff.mpr h)
  refine ((sortBy_key_descending key rows).and hdistinct).imp ?_
  rintro a b ⟨hle, hne⟩
  by_contra hlt
  exact hne (String.le_antisymm (String.not_lt.mp hlt) hle)

theorem nodup_keys (h : DescendingBy key rows) : (rows.map key).Nodup := by
  refine List.pairwise_map.mpr (h.imp fun {a b} hlt hsame => ?_)
  rw [hsame] at hlt
  exact String.lt_irrefl _ hlt

theorem getLast_le (h : DescendingBy key rows) {last : α} (hlast : rows.getLast? = some last)
    {a : α} (ha : a ∈ rows) : key last ≤ key a := by
  obtain ⟨init, rfl⟩ := List.getLast?_eq_some_iff.mp hlast
  obtain ⟨_, _, hbelow⟩ := List.pairwise_append.mp h
  rcases List.mem_append.mp ha with ha | ha
  · exact String.not_lt.mp (String.lt_asymm (hbelow a ha last (List.mem_singleton_self _)))
  · exact List.mem_singleton.mp ha ▸ String.le_refl _

/-- What a cut leaves out lies below all that it keeps, and then it keeps its full number. -/
theorem take_complete (h : DescendingBy key rows) (size : Nat) {a : α} (ha : a ∈ rows) :
    a ∈ rows.take size ∨
      size ≤ (rows.take size).length ∧ ∀ b ∈ rows.take size, key a < key b := by
  rw [← List.take_append_drop size rows] at h
  obtain ⟨_, _, hbelow⟩ := List.pairwise_append.mp h
  have hsplit : a ∈ rows.take size ++ rows.drop size := by rwa [List.take_append_drop]
  refine (List.mem_append.mp hsplit).imp_right fun hrest => ⟨?_, fun b hb => hbelow b hb a hrest⟩
  have hmore := List.length_pos_of_mem hrest
  rw [List.length_drop] at hmore
  rw [List.length_take]
  omega

end DescendingBy

namespace Paging

/-- The rows of a page, and all those that there were when it was taken. -/
structure Page (α : Type) where
  pool : List α
  rows : List α

variable {α : Type} {key : α → String} {size : Int}

/-- The rows of all pages in the order in which they were returned; the latest page stands first. -/
def collected : List (Page α) → List α
  | [] => []
  | page :: earlier => collected earlier ++ page.rows

def cursor (key : α → String) (pages : List (Page α)) : Option String :=
  (collected pages).getLast?.map key

/-- The cursor of the request that follows. An empty page has no last row to go on from. -/
def next? (key : α → String) : List (Page α) → Option Json
  | [] => some .null
  | page :: _ => page.rows.getLast?.map fun a => .str (key a)

theorem parse_next {pages : List (Page α)} {after : Json} (h : next? key pages = some after)
    (hnormal : ∀ a ∈ collected pages, Identifier.IsNormal (key a)) :
    Identifier.parseOptional (some "after") after = .ok (cursor key pages) := by
  cases pages with
  | nil =>
    cases h
    rfl
  | cons page earlier =>
    obtain ⟨last, hlast, rfl⟩ := Option.map_eq_some_iff.mp h
    have hmem : last ∈ collected (page :: earlier) :=
      List.mem_append_right _ (List.mem_of_getLast? hlast)
    rw [(hnormal last hmem).parseOptional_eq]
    simp [cursor, collected, List.getLast?_append, hlast]

/-- The page descends below a cursor, and it leaves out only what lies below a full page. -/
structure Page.Cut (key : α → String) (size : Int) (below : Option String) (page : Page α) :
    Prop where
  sorted : DescendingBy key page.rows
  sound : ∀ a ∈ page.rows, a ∈ page.pool ∧ ∀ id ∈ below, key a < id
  complete : ∀ a ∈ page.pool, (∀ id ∈ below, key a < id) →
    a ∈ page.rows ∨ size ≤ page.rows.length ∧ ∀ b ∈ page.rows, key a < key b

/-- Each page is cut below the last row of those before. -/
inductive Follow (key : α → String) (size : Int) : List (Page α) → Prop
  | nil : Follow key size []
  | cons {page : Page α} {earlier : List (Page α)} (rest : Follow key size earlier)
      (cut : page.Cut key size (cursor key earlier)) : Follow key size (page :: earlier)

namespace Follow
variable {pages : List (Page α)} {id : String}

theorem descending (h : Follow key size pages) : DescendingBy key (collected pages) := by
  induction h with
  | nil => exact .nil
  | @cons page earlier _ cut ih =>
    refine List.pairwise_append.mpr ⟨ih, cut.sorted, fun a ha b hb => ?_⟩
    obtain ⟨last, hlast⟩ := Option.isSome_iff_exists.mp
      (List.getLast?_isSome.mpr (List.ne_nil_of_mem ha))
    have hb : key b < key last := (cut.sound b hb).2 (key last) (by simp [cursor, hlast])
    by_contra hle
    exact String.not_lt.mpr (String.le_trans (ih.getLast_le hlast ha) (String.not_lt.mp hle)) hb

theorem sound (h : Follow key size pages) :
    ∀ a ∈ collected pages, ∃ page ∈ pages, a ∈ page.pool := by
  induction h with
  | nil => simp [collected]
  | @cons page earlier _ cut ih =>
    intro a ha
    rcases List.mem_append.mp ha with ha | ha
    · obtain ⟨before, hbefore, ha⟩ := ih a ha
      exact ⟨before, List.mem_cons_of_mem _ hbefore, ha⟩
    · exact ⟨page, List.mem_cons_self, (cut.sound a ha).1⟩

/-- What is there for every page was returned, or every page was full and it is still below all
that was returned. -/
theorem returned_or_ahead (h : Follow key size pages)
    (hid : ∀ page ∈ pages, ∃ a ∈ page.pool, key a = id) :
    (∃ a ∈ collected pages, key a = id) ∨
      (∀ page ∈ pages, size ≤ page.rows.length) ∧ ∀ a ∈ collected pages, id < key a := by
  induction h with
  | nil => exact .inr ⟨by simp, by simp [collected]⟩
  | @cons page earlier _ cut ih =>
    obtain ⟨⟨a, ha, rfl⟩, hbefore⟩ := List.forall_mem_cons.mp hid
    -- The row of the key may be another one in every pool, so what is carried along is about the
    -- key alone.
    rcases ih hbefore with ⟨b, hb, hsame⟩ | ⟨hfull, hahead⟩
    · exact .inl ⟨b, List.mem_append_left _ hb, hsame⟩
    · have hcursor : ∀ id ∈ cursor key earlier, key a < id := by
        intro id hlast
        obtain ⟨b, hb, rfl⟩ := Option.map_eq_some_iff.mp hlast
        exact hahead b (List.mem_of_getLast? hb)
      rcases cut.complete a ha hcursor with hpage | ⟨hlong, hbelow⟩
      · exact .inl ⟨a, List.mem_append_right _ hpage, rfl⟩
      · exact .inr ⟨List.forall_mem_cons.mpr ⟨hlong, hfull⟩,
          List.forall_mem_append.mpr ⟨hahead, hbelow⟩⟩

/-- A page that is not full is the end of what is there for every page. -/
theorem returned (h : Follow key size pages) (hshort : ∃ page ∈ pages, page.rows.length < size)
    (hid : ∀ page ∈ pages, ∃ a ∈ page.pool, key a = id) : ∃ a ∈ collected pages, key a = id := by
  obtain ⟨page, hpage, hlength⟩ := hshort
  rcases h.returned_or_ahead hid with hreturned | ⟨hfull, _⟩
  · exact hreturned
  · exact absurd (hfull page hpage) (by omega)

end Follow
end Paging
end FileShare

import FileShare.Proofs.Runs.Listings
import FileShare.Proofs.Runs.Process
import FileShare.Proofs.Search.Lookups
import FileShare.Proofs.Search.Requests
import Mathlib.Data.String.Basic

/-! # New rows come first

Listings go from the greatest identifier down, and a cursor cuts off what is not below it. So a new
row comes first, and no cursor is ahead of it, if its identifier is greater than all others. That
holds as long as the counter of the process does not come round within a second.
-/
namespace FileShare

theorem head?_of_greatest {α : Type} {key : α → String} {l : List α}
    (hl : l.Pairwise fun a b => key b ≤ key a) {a : α} (ha : a ∈ l)
    (hgreatest : ∀ b ∈ l, b = a ∨ key b < key a) : l.head? = some a := by
  cases l with
  | nil => simp at ha
  | cons b rest =>
    rcases hgreatest b List.mem_cons_self with rfl | hlt
    · rfl
    · rcases List.mem_cons.mp ha with rfl | ha
      · exact absurd hlt (String.lt_irrefl _)
      · exact absurd hlt (String.not_lt.mpr ((List.pairwise_cons.mp hl).1 a ha))

/-- The row of an identifier comes first wherever rows are listed, and no page below a cursor holds
it. -/
structure Store.Newest (id : String) (s : Store) : Prop where
  userFirst : ∀ u ∈ s.users, u.id = id → ∀ limits page,
    Accounts.list limits .null s = .ok page → page.head? = some u.toPublic
  userAhead : ∀ limits after cursor page,
    Identifier.parseOptional (some "after") after = .ok (some cursor) →
    Accounts.list limits after s = .ok page → ∀ u ∈ page, u.id ≠ id
  nodeFirst : ∀ n ∈ s.nodes, n.id = id → ∀ limits username equality patterns m page,
    Matcher.compile limits equality patterns = .ok m → n.VisibleTo username → m.keeps n →
    limits.resultsPerPage ≠ 0 → Nodes.search limits username .null equality patterns s = .ok page →
    page.head? = some n
  nodeAhead : ∀ limits username after cursor equality patterns m page,
    Matcher.compile limits equality patterns = .ok m →
    Identifier.parseOptional (some "after") after = .ok (some cursor) →
    Nodes.search limits username after equality patterns s = .ok page → ∀ n ∈ page, n.id ≠ id
  readFirst : ∀ n ∈ s.nodes, n.id = id → ∀ limits username ids found,
    Nodes.get limits username ids s = .ok found → n ∈ found → found.head? = some n

/-! ## Pages of accounts -/

namespace Accounts

theorem head?_page {limits : Settings} {users : List User} {u : User} (hu : u ∈ users)
    (hgreatest : ∀ v ∈ users, v = u ∨ v.id < u.id) : (page limits none users).head? = some u := by
  have hsorted : (sortBy (fun a b => decide (b.id ≤ a.id)) users).Pairwise
      fun a b => b.id ≤ a.id := sortBy_key_descending User.id users
  have hroom : (pageSize limits).toNat ≠ 0 := by
    unfold pageSize
    omega
  simp only [page, Option.all_none, List.filter_true, List.head?_take, if_neg hroom]
  exact head?_of_greatest hsorted (mem_sortBy.mpr hu) fun v hv => hgreatest v (mem_sortBy.mp hv)

end Accounts

/-! ## Pages of nodes -/

theorem Query.head?_page {limit : Int} (hlimit : limit ≠ 0) {ns : List Node}
    (hns : Descending ns) {n : Node} (hn : n ∈ ns) (hgreatest : ∀ k ∈ ns, k = n ∨ k.id < n.id) :
    (page limit ns).head? = some n := by
  have hfirst : ns.head? = some n :=
    head?_of_greatest (hns.imp fun {a b} hlt => le_of_lt hlt) hn hgreatest
  unfold page
  split
  · exact hfirst
  · rw [List.head?_take, if_neg (by omega), hfirst]

/-! ## The greatest identifier -/

namespace Store
variable {s : Store} {id : String}

theorem mem_rowIds_user {u : User} (hu : u ∈ s.users) : u.id ∈ s.rowIds :=
  List.mem_append_left _ (List.mem_map_of_mem hu)

theorem mem_rowIds_node {n : Node} (hn : n ∈ s.nodes) : n.id ∈ s.rowIds :=
  List.mem_append_right _ (List.mem_map_of_mem hn)

section Greatest
variable (hgreatest : ∀ k ∈ s.rowIds, k ≤ id)
include hgreatest

theorem user_exceeds (hd : Accounts.Distinct s.users) {u : User} (hu : u ∈ s.users)
    (hid : u.id = id) : ∀ v ∈ s.users, v = u ∨ v.id < u.id := by
  subst hid
  intro v hv
  by_cases hsame : v.id = u.id
  · exact .inl (hd.eq_of_id hv hu hsame)
  · exact .inr (lt_of_le_of_ne (hgreatest _ (mem_rowIds_user hv)) hsame)

theorem list_below {limits : Settings} {after : Json} {cursor : String} {page : List PublicUser}
    (hafter : Identifier.parseOptional (some "after") after = .ok (some cursor))
    (hlist : Accounts.list limits after s = .ok page) : ∀ u ∈ page, u.id < id := by
  intro u hu
  obtain ⟨below, hbelow, hpresent, _, rfl⟩ := Accounts.list_eq_ok.mp hlist
  cases hafter.symm.trans hbelow
  obtain ⟨v, hv, rfl⟩ := List.mem_map.mp hu
  obtain ⟨w, hw, hid⟩ := List.any_eq_true.mp (hpresent cursor rfl)
  have hcursor : cursor ≤ id := of_decide_eq_true hid ▸ hgreatest _ (mem_rowIds_user hw)
  exact lt_of_lt_of_le ((Accounts.mem_of_page hv).2 cursor rfl) hcursor

variable (hs : s.Keyed)
include hs

theorem node_exceeds {n : Node} (hn : n ∈ s.nodes) (hid : n.id = id) :
    ∀ k ∈ s.nodes, k = n ∨ k.id < n.id := by
  subst hid
  intro k hk
  by_cases hsame : k.id = n.id
  · exact .inl (hs.eq_of_id hk hn hsame)
  · exact .inr (lt_of_le_of_ne (hgreatest _ (mem_rowIds_node hk)) hsame)

section Search
variable {limits : Settings} {username : String} {equality patterns : Json} {m : Matcher}
  (hm : Matcher.compile limits equality patterns = .ok m) {page : List Node}
include hm

theorem search_first {n : Node} (hn : n ∈ s.nodes) (hid : n.id = id)
    (hvisible : n.VisibleTo username) (hkeeps : m.keeps n) (hroom : limits.resultsPerPage ≠ 0)
    (hsearch : Nodes.search limits username .null equality patterns s = .ok page) :
    page.head? = some n := by
  obtain ⟨cursor, hcursor, rfl⟩ := Nodes.page_of_search hs hm hsearch
  cases hcursor
  have hfound : m.finds username none n := Matcher.finds_iff.mpr ⟨hvisible, by simp, hkeeps⟩
  refine Query.head?_page hroom (Query.newestNodes_filter_descending hs _)
    (mem_sortBy.mpr (List.mem_filter.mpr ⟨hn, hfound⟩)) fun k hk => ?_
  exact node_exceeds hgreatest hs hn hid k (List.mem_filter.mp (mem_sortBy.mp hk)).1

theorem search_below {after : Json} {cursor : String}
    (hafter : Identifier.parseOptional (some "after") after = .ok (some cursor))
    (hsearch : Nodes.search limits username after equality patterns s = .ok page) :
    ∀ n ∈ page, n.id < id := by
  intro n hn
  obtain ⟨below, _, hbelow, hpresent, _⟩ := (Nodes.search_eq_ok hm).mp hsearch
  obtain ⟨below', hbelow', rfl⟩ := Nodes.page_of_search hs hm hsearch
  cases hafter.symm.trans hbelow
  cases hafter.symm.trans hbelow'
  obtain ⟨k, hk, hid⟩ := hasNode_iff.mp (hpresent cursor rfl)
  have hcursor : cursor ≤ id := hid ▸ hgreatest _ (mem_rowIds_node hk)
  obtain ⟨_, hfound, _⟩ := Matcher.finds_iff.mp (Query.mem_answer hn).2
  exact lt_of_lt_of_le (hfound cursor rfl) hcursor

end Search

/-- The row of the greatest identifier. -/
theorem newest_of_greatest (hd : Accounts.Distinct s.users) : s.Newest id where
  userFirst u hu hid limits page hlist := by
    obtain ⟨cursor, hcursor, _, _, rfl⟩ := Accounts.list_eq_ok.mp hlist
    cases hcursor
    rw [List.head?_map, Accounts.head?_page hu (user_exceeds hgreatest hd hu hid)]
    rfl
  userAhead _ _ _ _ hafter hlist u hu := (list_below hgreatest hafter hlist u hu).ne
  nodeFirst _ hn hid _ _ _ _ _ _ hm hvisible hkeeps hroom :=
    search_first hgreatest hs hm hn hid hvisible hkeeps hroom
  nodeAhead _ _ _ _ _ _ _ _ hm hafter hsearch n hn :=
    (search_below hgreatest hs hm hafter hsearch n hn).ne
  readFirst n hn hid limits username ids found hget hfound := by
    obtain ⟨_, _, _, hdescending, hmem⟩ := Nodes.found_of_get hs hget
    exact head?_of_greatest (hdescending.imp fun {a b} hlt => le_of_lt hlt) hfound
      fun k hk => node_exceeds hgreatest hs hn hid k (hmem k hk).1

end Greatest
end Store

/-! ## New rows -/

/-- A process draws identifiers in ascending order exactly as long as its counter does not come
round within a second, under a clock that does not go back. As long as it does not, a new row has a
greater identifier than all that were drawn before, comes first in every listing, and lies behind no
cursor. -/
theorem new_rows_come_first {g : Generator} {nows : List Instant} (clock : Forward nows) :
    ((g.drawEach nows).Pairwise (· < ·) ↔ g.Unwrapped nows) ∧
    (g.Unwrapped nows → ∀ earlier w (c : Call), Process g earlier w →
      c.generator = w.generator → c.Draws w.store → nows = earlier ++ [c.now] →
      (∀ id ∈ g.drawEach earlier, id < c.drawn) ∧ (c.after w.store).Newest c.drawn) := by
  refine ⟨Generator.drawEach_increases_iff clock, ?_⟩
  rintro unwrapped earlier w c run own hdraws rfl
  have hincreasing := (Generator.drawEach_increases_iff clock).mpr unwrapped
  have hreadings : c.readings w.store = [c.now] := if_pos hdraws
  have hnext := run.drawEach_next own hdraws
  have hrun := run.call own
  rw [hreadings] at hnext hrun
  have hgreater : ∀ id ∈ g.drawEach earlier, id < c.drawn := by
    rw [hnext] at hincreasing
    exact fun id hid => (List.pairwise_append.mp hincreasing).2.2 id hid _ List.mem_cons_self
  refine ⟨hgreater, Store.newest_of_greatest (fun k hk => ?_)
    (hrun.keyed (hincreasing.imp ne_of_lt)) hrun.reachable.distinct⟩
  have hdrawn := hrun.drawn_of_rowId hk
  rw [hnext] at hdrawn
  rcases List.mem_append.mp hdrawn with hold | hnew
  · exact le_of_lt (hgreater k hold)
  · exact le_of_eq (List.mem_singleton.mp hnew)

namespace Sample

def lists : Call := call 0 (.listUsers .null)

/-- Two accounts of one process, made at readings of one clock. -/
def twins (counter : Nat) : Store :=
  (enrol (counter + 1) "bert" "bert@mail.org").after
    ((enrol counter "anna" "anna@mail.org").after {})

end Sample

theorem new_rows_come_first_sample :
    Forward (Sample.ticks.take 2) ∧ Generator.Unwrapped ⟨7, 1⟩ (Sample.ticks.take 2) ∧
    Process ⟨7, 1⟩ (Sample.ticks.take 1) ((Sample.enrol 1 "anna" "anna@mail.org").run {}).2 ∧
    (Sample.twins 1).Newest "5f5e10000000000007000002" := by
  have clock : Forward (Sample.ticks.take 2) :=
    Sample.ticks_steady.toForward.sublist (List.take_sublist _ _)
  have unwrapped : Generator.Unwrapped ⟨7, 1⟩ (Sample.ticks.take 2) :=
    ⟨fun _ => by decide, trivial⟩
  have run : Process ⟨7, 1⟩ (Sample.ticks.take 1)
      ((Sample.enrol 1 "anna" "anna@mail.org").run {}).2 :=
    .call (c := Sample.enrol 1 "anna" "anna@mail.org") .start rfl
  exact ⟨clock, unwrapped, run, ((new_rows_come_first clock).2 unwrapped _ _
    (Sample.enrol 2 "bert" "bert@mail.org") run rfl (by decide) rfl).2⟩

/-- The counter comes round between two draws of one second. The second identifier is the smaller
one, and the account that was made last is listed last. -/
theorem new_row_comes_last :
    Steady (Sample.ticks.take 2) ∧
    ¬ (Generator.drawEach ⟨7, 0xffffff⟩ (Sample.ticks.take 2)).Pairwise (· < ·) ∧
    Process ⟨7, 0xffffff⟩ (Sample.ticks.take 2)
      ⟨Sample.twins 0xffffff, ⟨7, 0x1000001⟩⟩ ∧
    Sample.lists.result (Sample.twins 0xffffff) = .ok (.users
      [⟨"5f5e10000000000007ffffff", "anna", "anna@mail.org", "5a"⟩,
        ⟨"5f5e10000000000007000000", "bert", "bert@mail.org", "5a"⟩]) := by
  refine ⟨⟨Sample.ticks_steady.toForward.sublist (List.take_sublist _ _), fun second => ?_⟩,
    by decide, ?_, rfl⟩
  · exact Nat.le_trans List.countP_le_length (by decide)
  · exact .call (c := Sample.enrol 0x1000000 "bert" "bert@mail.org")
      (.call (c := Sample.enrol 0xffffff "anna" "anna@mail.org") .start rfl) rfl

end FileShare

import FileShare.Proofs.Search.Requests
import Mathlib.Data.List.Perm.Subperm

/-! # Requests for several nodes

A request names nodes by a list of identifiers, and it is answered if as many rows come back as it
has distinct identifiers. The page has room for one row of each of them, and a visible node gives
one row; so the numbers agree exactly if no named node is missing or hidden.
-/
namespace FileShare

variable {s : Store} {username : String} {wanted : List String}

namespace Query

theorem nodup_hits (hs : s.Keyed) (wanted : List String) (username : String) :
    ((s.nodes.filter (idPlan wanted username).selects).map Node.id).Nodup ∧
      (s.nodes.filter (idPlan wanted username).selects).map Node.id ⊆ wanted := by
  constructor
  · exact hs.ids.sublist (List.filter_sublist.map Node.id)
  · intro id hid
    obtain ⟨n, hn, rfl⟩ := List.mem_map.mp hid
    have hselected := (List.mem_filter.mp hn).2
    rw [idPlan_selects, Bool.and_eq_true, decide_eq_true_iff] at hselected
    exact hselected.1

theorem length_hits_le (hs : s.Keyed) (wanted : List String) (username : String) :
    (s.nodes.filter (idPlan wanted username).selects).length ≤ wanted.length := by
  obtain ⟨hnodup, hsubset⟩ := nodup_hits hs wanted username
  have hlength := (hnodup.subperm hsubset).length_le
  rwa [List.length_map] at hlength

/-- As many hits as wanted identifiers: there is a visible node for each of them. -/
theorem length_hits_eq_iff (hs : s.Keyed) (hwanted : wanted.Nodup) (username : String) :
    (s.nodes.filter (idPlan wanted username).selects).length = wanted.length ↔
      ∀ id ∈ wanted, ∃ n ∈ s.nodes, n.id = id ∧ n.VisibleTo username := by
  obtain ⟨hnodup, hsubset⟩ := nodup_hits hs wanted username
  constructor
  · intro hlength id hid
    have hperm : ((s.nodes.filter (idPlan wanted username).selects).map Node.id).Perm wanted := by
      apply (hnodup.subperm hsubset).perm_of_length_le
      rw [List.length_map, hlength]
    obtain ⟨n, hn, rfl⟩ := List.mem_map.mp (hperm.mem_iff.mpr hid)
    obtain ⟨hmem, hselected⟩ := List.mem_filter.mp hn
    rw [idPlan_selects, Bool.and_eq_true, decide_eq_true_iff, decide_eq_true_iff] at hselected
    exact ⟨n, hmem, rfl, hselected.2⟩
  · intro hall
    have hcovers : wanted ⊆ (s.nodes.filter (idPlan wanted username).selects).map Node.id := by
      intro id hid
      obtain ⟨n, hn, rfl, hsees⟩ := hall id hid
      have hselected : (idPlan wanted username).selects n := by
        simp [idPlan_selects, hid, hsees]
      exact List.mem_map_of_mem (List.mem_filter.mpr ⟨hn, hselected⟩)
    have hleast := (hwanted.subperm hcovers).length_le
    rw [List.length_map] at hleast
    exact Nat.le_antisymm (length_hits_le hs wanted username) hleast

theorem fetch_idPlan (hs : s.Keyed) (hwide : wanted.length < 2 ^ 63) :
    fetch s (idPlan wanted username) =
      .ok (newestNodes (s.nodes.filter (idPlan wanted username).selects)) := by
  have hroom : (newestNodes (s.nodes.filter (idPlan wanted username).selects)).length ≤
      wanted.length := by
    rw [(newestNodes_perm _).length_eq]
    exact length_hits_le hs wanted username
  have hpage : ∀ l : List Node, l.length ≤ wanted.length →
      page (idPlan wanted username).limit l = l := by
    intro l hl
    have hlimit : (idPlan wanted username).limit = max (wanted.length : Int) 1 := rfl
    rw [page, hlimit, if_neg (by omega), List.take_of_length_le (by omega)]
  rw [fetch_eq hs (idPlan_answers wanted username) (idPlan_fault? hwide username), hpage _ hroom]

end Query

/-- A request for nodes is answered with all of them, newest first, if the user sees them all. It
fails otherwise, and does not tell which one is missing. -/
theorem Nodes.get_texts {limits : Settings} {texts : List String} (hs : s.Keyed)
    (known : s.hasUser username) (valid : ∀ text ∈ texts, Identifier.isValid text)
    (few : (texts.length : Int) ≤ limits.maxItemsPerRequest) (hwide : texts.length < 2 ^ 63) :
    get limits username (texts.map .str) s =
      if ∀ id ∈ texts.map Text.lower, ∃ n ∈ s.nodes, n.id = id ∧ n.VisibleTo username then
        .ok (Query.newestNodes (s.nodes.filter fun n => n.id ∈ texts.map Text.lower))
      else reject (.someNotFound "node_ids") := by
  have hbatch : checkBatch limits (texts.map .str) = .ok () := by
    rw [checkBatch_eq_ok, List.length_map]
    exact few
  have hknown : discard (Accounts.require s username) = .ok () :=
    Accounts.discard_require_eq_ok.mpr known
  have hshort : ((texts.map Text.lower).eraseDups).length < 2 ^ 63 := by
    have hle := length_eraseDups_le (texts.map Text.lower)
    rw [List.length_map] at hle
    omega
  have hlength :=
    Query.length_hits_eq_iff hs (nodup_eraseDups (texts.map Text.lower)) username
  simp only [List.mem_eraseDups] at hlength
  simp only [get, hbatch, hknown, Identifier.parseAll_texts _ valid, Outcome.ok_bind,
    Query.fetch_idPlan hs hshort, (Query.newestNodes_perm _).length_eq, hlength]
  split
  · rename_i hall
    have hfilter : s.nodes.filter
        (Query.idPlan ((texts.map Text.lower).eraseDups) username).selects =
          s.nodes.filter fun n => n.id ∈ texts.map Text.lower := by
      refine List.filter_congr fun n hn => ?_
      rw [Query.idPlan_selects, Bool.eq_iff_iff, Bool.and_eq_true, decide_eq_true_iff,
        decide_eq_true_iff, decide_eq_true_iff, List.mem_eraseDups]
      constructor
      · exact fun h => h.1
      · intro hnamed
        obtain ⟨k, hk, hid, hsees⟩ := hall n.id hnamed
        cases hs.eq_of_id hk hn hid
        exact ⟨hnamed, hsees⟩
    rw [hfilter]
    rfl
  · rfl

theorem Query.descending_named (hs : s.Keyed) (named : List String) :
    Descending (newestNodes (s.nodes.filter fun n => n.id ∈ named)) ∧
      ∀ n, n ∈ newestNodes (s.nodes.filter fun n => n.id ∈ named) ↔ n ∈ s.nodes ∧ n.id ∈ named := by
  refine ⟨newestNodes_filter_descending hs _, fun n => ?_⟩
  rw [newestNodes, mem_sortBy, List.mem_filter, decide_eq_true_iff]

theorem Call.getNodes_eq {c : Call} {texts : List String} (hs : s.Keyed)
    (known : s.hasUser username) (valid : ∀ text ∈ texts, Identifier.isValid text)
    (few : (texts.length : Int) ≤ c.limits.maxItemsPerRequest) (hwide : texts.length < 2 ^ 63)
    (asked : c.operation = .getNodes username (texts.map .str)) :
    c.result s =
      if ∀ id ∈ texts.map Text.lower, ∃ n ∈ s.nodes, n.id = id ∧ n.VisibleTo username then
        .ok (.nodes (Query.newestNodes (s.nodes.filter fun n => n.id ∈ texts.map Text.lower)))
      else reject (.someNotFound "node_ids") := by
  simp only [result, run, asked, Operation.run, Operation.reading,
    Nodes.get_texts hs known valid few hwide]
  split
  · rfl
  · rfl

/-- Where identifiers are keys, a request for few enough nodes is answered exactly if the user sees
a node of every identifier. The answer holds each of the named nodes once, in descending order; no
other request for the same nodes gives another answer, be it in another order or case or with
repetitions. A list has fewer than two to the power of 63 members. -/
theorem batches_are_all_or_nothing {c : Call} {texts : List String} (hs : s.Keyed)
    (known : s.hasUser username) (valid : ∀ text ∈ texts, Identifier.isValid text)
    (few : (texts.length : Int) ≤ c.limits.maxItemsPerRequest) (hwide : texts.length < 2 ^ 63)
    (asked : c.operation = .getNodes username (texts.map .str)) :
    (∃ found : List Node, found.Pairwise (fun a b => b.id < a.id) ∧
      (∀ n, n ∈ found ↔ n ∈ s.nodes ∧ n.id ∈ texts.map Text.lower) ∧
      c.result s =
        if ∀ id ∈ texts.map Text.lower, ∃ n ∈ s.nodes, n.id = id ∧ n.VisibleTo username then
          .ok (.nodes found)
        else reject (.someNotFound "node_ids")) ∧
    ∀ (other : Call) (others : List String), (∀ text ∈ others, Identifier.isValid text) →
      (others.length : Int) ≤ other.limits.maxItemsPerRequest → others.length < 2 ^ 63 →
      other.operation = .getNodes username (others.map .str) →
      (∀ id, id ∈ others.map Text.lower ↔ id ∈ texts.map Text.lower) →
      other.result s = c.result s := by
  have hresult := Call.getNodes_eq hs known valid few hwide asked
  obtain ⟨hdescending, hmem⟩ := Query.descending_named hs (texts.map Text.lower)
  refine ⟨⟨_, hdescending, hmem, hresult⟩, ?_⟩
  intro other others valid' few' hwide' asked' same
  have hfilter : (s.nodes.filter fun n => n.id ∈ others.map Text.lower) =
      s.nodes.filter fun n => n.id ∈ texts.map Text.lower := by
    apply List.filter_congr
    intro n _
    rw [Bool.eq_iff_iff, decide_eq_true_iff, decide_eq_true_iff, same]
  rw [hresult, Call.getNodes_eq hs known valid' few' hwide' asked', hfilter]
  simp only [same]

namespace Sample

/-- A directory, and a file that another user shares, each of them twice. -/
def picked : List String :=
  ["5f1d7a00aa00bb00cc000011", "5F1D7A00AA00BB00CC000020", "5F1D7A00AA00BB00CC000011",
    "5f1d7a00aa00bb00cc000020"]

def pick : Call := call 0 (.getNodes "anna" (picked.map .str))

/-- The diary is for everyone, but it is not listed for the user by name. -/
def pickDiary : Call :=
  call 0 (.getNodes "anna" (("5f1d7a00aa00bb00cc000012" :: picked).map .str))

end Sample

theorem batches_are_all_or_nothing_sample :
    Sample.store.Keyed ∧ Sample.store.hasUser "anna" ∧
    (∀ text ∈ Sample.picked, Identifier.isValid text) ∧
    Sample.pick.result Sample.store =
      .ok (.nodes [.metaNode Sample.album, .file Sample.score]) ∧
    Sample.pickDiary.result Sample.store = reject (.someNotFound "node_ids") ∧
    (∃ found : List Node, found.Pairwise (fun a b => b.id < a.id) ∧
      (∀ n, n ∈ found ↔ n ∈ Sample.store.nodes ∧ n.id ∈ Sample.picked.map Text.lower) ∧
      Sample.pick.result Sample.store =
        if ∀ id ∈ Sample.picked.map Text.lower,
          ∃ n ∈ Sample.store.nodes, n.id = id ∧ n.VisibleTo "anna" then .ok (.nodes found)
        else reject (.someNotFound "node_ids")) ∧
    ∀ (other : Call) (others : List String), (∀ text ∈ others, Identifier.isValid text) →
      (others.length : Int) ≤ other.limits.maxItemsPerRequest → others.length < 2 ^ 63 →
      other.operation = .getNodes "anna" (others.map .str) →
      (∀ id, id ∈ others.map Text.lower ↔ id ∈ Sample.picked.map Text.lower) →
      other.result Sample.store = Sample.pick.result Sample.store := by
  have hvalid : ∀ text ∈ Sample.picked, Identifier.isValid text := by decide
  exact ⟨Sample.store_keyed, rfl, hvalid, rfl, rfl,
    batches_are_all_or_nothing Sample.store_keyed rfl hvalid (by decide) (by decide) rfl⟩

end FileShare

import FileShare.Nodes
import FileShare.Proofs.IdentifierLists
import FileShare.Proofs.Search.Answers
import FileShare.Proofs.Search.Document

/-! # Looking nodes up by identifier

The plans for reading and for editing name identifiers and a user. Both select the nodes of those
identifiers that the user may see, or may edit, and they never break down. A request for nodes is
answered with all of them or not at all.
-/
namespace FileShare

theorem Store.fitsInteger_iff {n : Int} : fitsInteger n ↔ -2 ^ 63 ≤ n ∧ n < 2 ^ 63 := by
  simp [fitsInteger]

namespace Query

theorem visibleTo_passes (n : Node) (username : String) :
    (Test.visibleTo username).passes n = decide (n.VisibleTo username) := by
  rw [Bool.eq_iff_iff, decide_eq_true_iff]
  simp [Test.passes, Test.holds, Except.toOption, Node.VisibleTo]

theorem editableBy_passes (n : Node) (username : String) :
    (Test.editableBy username).passes n = decide (n.EditableBy username) := by
  rw [Bool.eq_iff_iff, decide_eq_true_iff]
  simp [Test.passes, Test.holds, Except.toOption, Node.EditableBy]

theorem among_passes (n : Node) (ids : List String) :
    (Test.among ids).passes n = decide (n.id ∈ ids) := rfl

section Pair
variable {t u : Test} {limit : Int}

theorem selects_pair (n : Node) :
    (Plan.mk (some [.test t, .test u]) (some [.test t, .test u]) limit).selects n =
      (t.passes n && u.passes n) := by
  cases n <;> simp [Plan.selects, Branch.passes, Criterion.passes, Criterion.tests]

theorem answers_pair (ht : t.Answers) (hu : u.Answers) :
    (Plan.mk (some [.test t, .test u]) (some [.test t, .test u]) limit).Answers := by
  have h : Branch.Every Test.Answers (some [.test t, .test u]) := by
    rintro _ ⟨⟩
    simp [Criterion.tests, ht, hu]
  exact ⟨h, h⟩

end Pair

theorem idPlan_answers (ids : List String) (username : String) : (idPlan ids username).Answers :=
  answers_pair (fun _ => rfl) (fun _ => rfl)

theorem idPlan_selects (ids : List String) (username : String) (n : Node) :
    (idPlan ids username).selects n = (decide (n.id ∈ ids) && decide (n.VisibleTo username)) := by
  rw [idPlan, selects_pair, among_passes, visibleTo_passes]

theorem idPlan_fault? {ids : List String} (h : ids.length < 2 ^ 63) (username : String) :
    (idPlan ids username).fault? = none := by
  have hlimit : Store.fitsInteger (max (ids.length : Int) 1) := by
    rw [Store.fitsInteger_iff]
    omega
  refine Plan.fault?_eq_none.mpr (List.forall_mem_singleton.mpr ?_)
  exact if_pos hlimit

theorem editPlan_answers (id username : String) : (editPlan id username).Answers :=
  answers_pair (fun _ => rfl) (fun _ => rfl)

theorem editPlan_selects (id username : String) (n : Node) :
    (editPlan id username).selects n =
      (decide (n.id = id) && decide (n.EditableBy username)) := by
  rw [editPlan, selects_pair, among_passes, editableBy_passes]
  simp

section EditLookup
variable {s : Store} (hs : s.Keyed)
include hs

theorem fetch_editPlan (id username : String) :
    fetch s (editPlan id username) =
      .ok (page 1 (newestNodes (s.nodes.filter (editPlan id username).selects))) :=
  fetch_eq hs (editPlan_answers id username) rfl

theorem editable_of_fetch {id username : String} {found : List Node} {n : Node}
    (h : fetch s (editPlan id username) = .ok found) (hn : n ∈ found) :
    n ∈ s.nodes ∧ n.id = id ∧ n.EditableBy username := by
  rw [fetch_editPlan hs] at h
  cases h
  obtain ⟨hmem, hselected⟩ := mem_answer hn
  rw [editPlan_selects, Bool.and_eq_true, decide_eq_true_iff, decide_eq_true_iff] at hselected
  exact ⟨hmem, hselected⟩

theorem fetch_editPlan_id {n : Node} (hn : n ∈ s.nodes) (username : String) :
    fetch s (editPlan n.id username) = .ok (if n.EditableBy username then [n] else []) := by
  have hmem : ∀ k, k ∈ s.nodes.filter (editPlan n.id username).selects ↔
      k ∈ if n.EditableBy username then [n] else [] := by
    intro k
    rw [List.mem_filter, editPlan_selects, Bool.and_eq_true, decide_eq_true_iff,
      decide_eq_true_iff]
    constructor
    · rintro ⟨hk, hid, heditable⟩
      cases hs.eq_of_id hk hn hid
      simp [heditable]
    · intro hk
      split at hk
      · rename_i heditable
        cases List.mem_singleton.mp hk
        exact ⟨hn, rfl, heditable⟩
      · simp at hk
  have hnodes : newestNodes (s.nodes.filter (editPlan n.id username).selects) =
      newestNodes (if n.EditableBy username then [n] else []) := by
    refine newestNodes_congr (hs.ids.sublist (List.filter_sublist.map Node.id)) ?_ hmem
    split <;> simp
  rw [fetch_editPlan hs, hnodes]
  split <;> rfl

end EditLookup

theorem eq_page_of_fetch {s : Store} (hs : s.Keyed) {p : Plan} (hp : p.Answers)
    {found : List Node} (h : fetch s p = .ok found) :
    found = page p.limit (newestNodes (s.nodes.filter p.selects)) := by
  cases hfault : p.fault? with
  | some fault => simp [fetch_of_fault hfault] at h
  | none =>
    rw [fetch_eq hs hp hfault] at h
    exact (Except.ok.inj h).symm

end Query

theorem Identifier.mem_of_parseAll {field : Option String} {values : List Json}
    {ids : List String} (h : parseAll field values = .ok ids) {text : String}
    (htext : .str text ∈ values) : Text.lower text ∈ ids := by
  obtain ⟨texts, rfl, _, rfl⟩ := parseAll_eq_ok.mp h
  obtain ⟨_, hmem, hsame⟩ := List.mem_map.mp htext
  cases hsame
  exact List.mem_eraseDups.mpr (List.mem_map_of_mem hmem)

/-- An answer to a request for nodes holds as many as were asked for, newest first. -/
theorem Nodes.found_of_get {limits : Settings} {username : String} {ids : List Json} {s : Store}
    (hs : s.Keyed) {found : List Node} (h : get limits username ids s = .ok found) :
    ∃ wanted, Identifier.parseAll (some "node_ids") ids = .ok wanted ∧
      found.length = wanted.length ∧ Query.Descending found ∧
      ∀ n ∈ found, n ∈ s.nodes ∧ n.id ∈ wanted ∧ n.VisibleTo username := by
  obtain ⟨_, _, h⟩ := Outcome.bind_eq_ok.mp h
  obtain ⟨_, _, h⟩ := Outcome.bind_eq_ok.mp h
  obtain ⟨wanted, hwanted, h⟩ := Outcome.bind_eq_ok.mp h
  obtain ⟨nodes, hfetch, h⟩ := Outcome.bind_eq_ok.mp h
  split at h
  · rename_i hlength
    cases h
    have hpage := Query.eq_page_of_fetch hs (Query.idPlan_answers wanted username) hfetch
    refine ⟨wanted, hwanted, hlength, ?_, fun n hn => ?_⟩
    · rw [hpage]
      exact (Query.newestNodes_filter_descending hs _).sublist (Query.page_sublist _ _)
    · rw [hpage] at hn
      obtain ⟨hmem, hselected⟩ := Query.mem_answer hn
      rw [Query.idPlan_selects, Bool.and_eq_true, decide_eq_true_iff, decide_eq_true_iff]
        at hselected
      exact ⟨hmem, hselected⟩
  · simp at h

end FileShare

import FileShare.Proofs.Keys
import FileShare.Proofs.Paging
import FileShare.Proofs.Search.Branches

/-! # The answer of a plan

A plan selects rows of both tables, sorts them, cuts them to a page and looks the nodes of the rows
up again. Where identifiers are keys this is the same as to filter, sort and cut the nodes.
-/
namespace FileShare.Query

/-! ## Nodes in descending order -/

def newestNodes (ns : List Node) : List Node := sortBy (fun a b => decide (b.id ≤ a.id)) ns

def Descending (ns : List Node) : Prop := ns.Pairwise fun a b => b.id < a.id

theorem newestNodes_perm (ns : List Node) : (newestNodes ns).Perm ns := sortBy_perm _ ns

theorem newestNodes_descending {ns : List Node} (h : (ns.map Node.id).Nodup) :
    Descending (newestNodes ns) := DescendingBy.of_sort h

theorem Descending.eq_of_perm {l l' : List Node} (h : Descending l) (h' : Descending l')
    (hp : l.Perm l') : l = l' :=
  List.Perm.eq_of_pairwise (fun _ _ _ _ hab hba => absurd hba (String.lt_asymm hab)) h h' hp

theorem Descending.nodup_ids {ns : List Node} (h : Descending ns) : (ns.map Node.id).Nodup :=
  DescendingBy.nodup_keys h

theorem Descending.eq_of_nodes {l l' : List Node} (h : Descending l) (h' : Descending l')
    (hl : ∀ n, n ∈ l ↔ n ∈ l') : l = l' :=
  h.eq_of_perm h'
    ((List.perm_ext_iff_of_nodup (h.nodup_ids.of_map _) (h'.nodup_ids.of_map _)).mpr hl)

theorem newestNodes_congr {l l' : List Node} (h : (l.map Node.id).Nodup)
    (h' : (l'.map Node.id).Nodup) (hl : ∀ n, n ∈ l ↔ n ∈ l') : newestNodes l = newestNodes l' := by
  have hp : l.Perm l' := (List.perm_ext_iff_of_nodup (h.of_map _) (h'.of_map _)).mpr hl
  exact (newestNodes_descending h).eq_of_perm (newestNodes_descending h')
    ((newestNodes_perm l).trans (hp.trans (newestNodes_perm l').symm))

theorem newestNodes_filter_descending {s : Store} (hs : s.Keyed) (keep : Node → Bool) :
    Descending (newestNodes (s.nodes.filter keep)) :=
  newestNodes_descending (hs.ids.sublist (List.filter_sublist.map Node.id))

/-! ## Looking the nodes up again -/

section Hydration
variable {s : Store} {hits : List Node} (hhits : ∀ n ∈ hits, n ∈ s.nodes)
include hhits

/-- The rows of an identifier tell a table that holds one of their nodes, and holds it once. -/
theorem nodeOf?_eq_some (hs : s.KeyedTables) {n : Node} (hn : n ∈ hits) :
    ∃ k ∈ hits, k.id = n.id ∧ nodeOf? s (hits.map Row.ofNode) n.id = some k := by
  have hkinds : ∀ p : String → Bool,
      (((hits.map Row.ofNode).filter fun r => r.id = n.id).map Row.kind).any p ↔
        ∃ k ∈ hits, k.id = n.id ∧ p k.kind := by
    intro p
    simp only [List.any_eq_true, List.mem_map, List.mem_filter, decide_eq_true_eq]
    constructor
    · rintro ⟨_, ⟨_, ⟨⟨k, hk, rfl⟩, hid⟩, rfl⟩, hp⟩
      exact ⟨k, hk, hid, hp⟩
    · rintro ⟨k, hk, hid, hp⟩
      exact ⟨k.kind, ⟨Row.ofNode k, ⟨⟨k, hk, rfl⟩, hid⟩, rfl⟩, hp⟩
  unfold nodeOf?
  by_cases hmeta : ∃ k ∈ hits, k.id = n.id ∧ decide (k.kind ≠ fileKind) = true
  · obtain ⟨k, hk, hid, hkind⟩ := hmeta
    cases k with
    | file f => exact absurd rfl (of_decide_eq_true hkind)
    | metaNode m =>
      have hfind : s.metas.find? (fun k => k.id = n.id) = some m :=
        hid ▸ find?_of_nodup hs.metas (Store.mem_nodes_metaNode.mp (hhits _ hk))
      have hrow := (hkinds (· ≠ fileKind)).mpr ⟨_, hk, hid, hkind⟩
      refine ⟨.metaNode m, hk, hid, ?_⟩
      simp only [hrow, if_true, hfind, Option.map_some, Option.some_or]
  · have hnone := mt (hkinds (· ≠ fileKind)).mp hmeta
    cases n with
    | file f =>
      have hfind : s.files.find? (fun g => g.id = (Node.file f).id) = some f :=
        find?_of_nodup hs.files (Store.mem_nodes_file.mp (hhits _ hn))
      have hfile := (hkinds (· = fileKind)).mpr ⟨_, hn, rfl, rfl⟩
      refine ⟨.file f, hn, rfl, ?_⟩
      simp only [hnone, Bool.false_eq_true, if_false, hfile, if_true, hfind, Option.map_none,
        Option.map_some, Option.none_or]
    | metaNode m =>
      have hkind := hs.kinds m (Store.mem_nodes_metaNode.mp (hhits _ hn))
      exact absurd ⟨_, hn, rfl, decide_eq_true hkind⟩ hmeta

theorem filterMap_nodeOf? (hs : s.Keyed) :
    ((hits.map Row.ofNode).filterMap fun r => nodeOf? s (hits.map Row.ofNode) r.id) = hits := by
  have hself : ∀ n ∈ hits, nodeOf? s (hits.map Row.ofNode) (Row.ofNode n).id = some n := by
    intro n hn
    obtain ⟨k, hk, hid, hfound⟩ := nodeOf?_eq_some hhits hs.tables hn
    cases hs.eq_of_id (hhits k hk) (hhits n hn) hid
    exact hfound
  rw [List.filterMap_map]
  exact (List.filterMap_congr hself).trans (List.filterMap_some)

end Hydration

/-! ## The answer -/

theorem page_map {α β : Type} (limit : Int) (f : α → β) (l : List α) :
    page limit (l.map f) = (page limit l).map f := by
  unfold page
  split
  · rfl
  · simp

theorem page_sublist {α : Type} (limit : Int) (l : List α) : (page limit l).Sublist l := by
  unfold page
  split
  · exact List.Sublist.refl l
  · exact List.take_sublist _ l

theorem page_complete (limit : Int) {ns : List Node} (h : Descending ns) {n : Node}
    (hn : n ∈ ns) : n ∈ page limit ns ∨
      limit ≤ (page limit ns).length ∧ ∀ k ∈ page limit ns, n.id < k.id := by
  unfold page
  split
  · exact .inl hn
  · rcases DescendingBy.take_complete h limit.toNat hn with hpage | ⟨hfull, hbelow⟩
    · exact .inl hpage
    · exact .inr ⟨Int.toNat_le.mp hfull, hbelow⟩

namespace Plan

def selects (p : Plan) : Node → Bool
  | .file f => p.files.passes (.file f)
  | .metaNode m => p.metas.passes (.metaNode m)

/-- No test of the plan breaks down. -/
def Answers (p : Plan) : Prop := p.files.Every Test.Answers ∧ p.metas.Every Test.Answers

end Plan

theorem rowsOf_eq {b : Branch} (hb : b.Every Test.Answers) (s : Store) (t : Table) :
    Plan.rowsOf s t b = .ok (((t.rows s).filter (b.passes ·)).map Row.ofNode) := by
  cases b with
  | none => simp [Plan.rowsOf, Branch.passes]
  | some criteria =>
    rw [Plan.rowsOf, select_eq (hb criteria rfl)]
    rfl

theorem filter_selects (s : Store) (p : Plan) :
    s.nodes.filter p.selects =
      (Table.files.rows s).filter (p.files.passes ·) ++
        (Table.metas.rows s).filter (p.metas.passes ·) := by
  simp only [Store.nodes, Table.rows, List.filter_append, List.filter_map]
  rfl

theorem rows_eq {p : Plan} (hp : p.Answers) (hfault : p.fault? = none) (s : Store) :
    p.rows s = .ok ((page p.limit (newestNodes (s.nodes.filter p.selects))).map Row.ofNode) := by
  have hsort : newestFirst ((s.nodes.filter p.selects).map Row.ofNode) =
      (newestNodes (s.nodes.filter p.selects)).map Row.ofNode := sortBy_map (fun _ _ => rfl) _
  simp only [Plan.rows, hfault, rowsOf_eq hp.1, rowsOf_eq hp.2]
  rw [filter_selects, List.map_append] at hsort
  rw [filter_selects, ← page_map, ← hsort]
  rfl

/-- A change of all nodes that keeps identifiers, kinds and what is selected keeps the rows. -/
theorem rows_of_map {s t : Store} {f : Node → Node} (ht : t.nodes = s.nodes.map f)
    (hid : ∀ n, (f n).id = n.id) (hkind : ∀ n, (f n).kind = n.kind) {p : Plan} (hp : p.Answers)
    (hselects : ∀ n ∈ s.nodes, p.selects (f n) = p.selects n) : p.rows t = p.rows s := by
  cases hfault : p.fault? with
  | some fault => simp only [Plan.rows, hfault]
  | none =>
    have hfilter : t.nodes.filter p.selects = (s.nodes.filter p.selects).map f := by
      rw [ht, List.filter_map]
      exact congrArg (List.map f) (List.filter_congr hselects)
    have hsort : newestNodes ((s.nodes.filter p.selects).map f) =
        (newestNodes (s.nodes.filter p.selects)).map f :=
      sortBy_map (fun a b => by rw [hid, hid]) _
    have hrow : Row.ofNode ∘ f = Row.ofNode :=
      funext fun n => by simp only [Function.comp, Row.ofNode, hid, hkind]
    rw [rows_eq hp hfault, rows_eq hp hfault, hfilter, hsort, page_map, List.map_map, hrow]

theorem mem_answer {s : Store} {limit : Int} {keep : Node → Bool} {n : Node}
    (hn : n ∈ page limit (newestNodes (s.nodes.filter keep))) : n ∈ s.nodes ∧ keep n :=
  List.mem_filter.mp (mem_sortBy.mp ((page_sublist limit _).subset hn))

theorem fetch_eq {s : Store} (hs : s.Keyed) {p : Plan} (hp : p.Answers) (hfault : p.fault? = none) :
    fetch s p = .ok (page p.limit (newestNodes (s.nodes.filter p.selects))) := by
  rw [fetch, rows_eq hp hfault]
  exact congrArg Except.ok (filterMap_nodeOf? (fun n hn => (mem_answer hn).1) hs)

/-- A plan with a value that the store does not take breaks down on every store. -/
theorem fetch_of_fault {p : Plan} {fault : Breakdown} (h : p.fault? = some fault) (s : Store) :
    fetch s p = breakDown fault := by
  simp [fetch, Plan.rows, h, breakDown, bind, Except.bind]

/-- Where only the tables have keys, the answer may show a node more than once, but every row of it
shows a node that the plan selects. -/
theorem fetch_eq_ok {s : Store} (hs : s.KeyedTables) {p : Plan} (hp : p.Answers)
    {found : List Node} (h : fetch s p = .ok found) :
    found.length = (page p.limit (newestNodes (s.nodes.filter p.selects))).length ∧
      ∀ n ∈ found, n ∈ s.nodes ∧ p.selects n := by
  cases hfault : p.fault? with
  | some fault =>
    rw [fetch_of_fault hfault] at h
    cases h
  | none =>
    have hanswer : ∀ n ∈ page p.limit (newestNodes (s.nodes.filter p.selects)),
        n ∈ s.nodes ∧ p.selects n := fun n hn => mem_answer hn
    revert hanswer
    rw [fetch, rows_eq hp hfault] at h
    revert h
    generalize page p.limit (newestNodes (s.nodes.filter p.selects)) = hits
    intro h hanswer
    cases h
    have hfound := fun n hn => nodeOf?_eq_some (fun k hk => (hanswer k hk).1) hs (n := n) hn
    rw [List.filterMap_map]
    constructor
    · rw [List.filterMap_length_eq_length]
      intro n hn
      obtain ⟨k, _, _, hk⟩ := hfound n hn
      simp [Row.ofNode, hk]
    · intro n hn
      obtain ⟨m, hm, hshown⟩ := List.mem_filterMap.mp hn
      obtain ⟨k, hmem, _, hk⟩ := hfound m hm
      cases hshown.symm.trans hk
      exact hanswer n hmem

end FileShare.Query

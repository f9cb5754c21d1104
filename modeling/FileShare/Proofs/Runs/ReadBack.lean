import FileShare.Proofs.Identifiers
import FileShare.Proofs.Runs.Identity
import FileShare.Proofs.Search.Requests

/-! # New nodes are read back

The two tables of nodes hold an identifier once each, even where a drawn identifier is one of the
other table. So a new node is found again at once, and a call for one answers with it or leaves the
store. Only where a request may not name a single node, the call fails with the new node stored.
-/
namespace FileShare

/-! ## The tables -/

namespace Store
variable {s t : Store}

theorem ids_revokeGrants (s : Store) (username : String) :
    (s.revokeGrants username).files.map FileNode.id = s.files.map FileNode.id ∧
      (s.revokeGrants username).metas.map MetaNode.id = s.metas.map MetaNode.id := by
  simp only [revokeGrants, List.map_map]
  exact ⟨rfl, rfl⟩

theorem nodup_addNode {n : Node} (h : s.addNode n = some t)
    (hfiles : (s.files.map FileNode.id).Nodup) (hmetas : (s.metas.map MetaNode.id).Nodup) :
    (t.files.map FileNode.id).Nodup ∧ (t.metas.map MetaNode.id).Nodup := by
  cases n with
  | file f =>
    obtain ⟨hnew, hrow⟩ := Option.ite_none_left_eq_some.mp h
    cases hrow
    exact ⟨nodup_added hfiles (by simpa using hnew), hmetas⟩
  | metaNode m =>
    obtain ⟨hnew, hrow⟩ := Option.ite_none_left_eq_some.mp h
    cases hrow
    exact ⟨hfiles, nodup_added hmetas (by simpa using hnew)⟩

theorem ids_remove_sublist (s : Store) (owner : String) (ids pulled : List String) :
    (((s.removeOwned owner ids).pullFromContents pulled).files.map FileNode.id).Sublist
        (s.files.map FileNode.id) ∧
      (((s.removeOwned owner ids).pullFromContents pulled).metas.map MetaNode.id).Sublist
        (s.metas.map MetaNode.id) := by
  simp only [removeOwned, pullFromContents, List.map_map]
  exact ⟨List.filter_sublist.map _, List.filter_sublist.map _⟩

end Store

variable {c : Call} {s t : Store}

theorem Effect.keyedTables (h : Effect c s t) (hs : s.KeyedTables) : t.KeyedTables := by
  have hkinds := h.kinds hs.kinds
  cases h with
  | nothing | register | amend => exact ⟨hs.files, hs.metas, hs.kinds⟩
  | @dismiss username u =>
    obtain ⟨hfiles, hmetas⟩ := (s.removeUser u).ids_revokeGrants username
    exact ⟨hfiles ▸ hs.files, hmetas ▸ hs.metas, hkinds⟩
  | create _ _ _ written =>
    obtain ⟨hfiles, hmetas⟩ := Store.nodup_addNode written hs.files hs.metas
    exact ⟨hfiles, hmetas, hkinds⟩
  | @change _ _ _ _ patch n =>
    obtain ⟨hfiles, hmetas⟩ := Store.ids_replaceNode (s := s) (Nodes.applyPatch c.now patch n)
    exact ⟨hfiles ▸ hs.files, hmetas ▸ hs.metas, hkinds⟩
  | @remove username _ named =>
    obtain ⟨hfiles, hmetas⟩ := s.ids_remove_sublist username named (s.ownedAmong username named)
    exact ⟨hs.files.sublist hfiles, hs.metas.sublist hmetas, hkinds⟩

theorem Reachable.keyedTables {allowed : Call → Store → Prop} (h : Reachable allowed s) :
    s.KeyedTables :=
  h.invariant ⟨.nil, .nil, fun _ hm => absurd hm List.not_mem_nil⟩
    fun _ _ _ _ heffect hs => heffect.keyedTables hs

/-! ## New nodes -/

theorem Identifier.IsNormal.parseAll_eq {id : String} (h : IsNormal id) (field : Option String) :
    parseAll field [.str id] = .ok [id] :=
  parseAll_normal field (List.nodup_singleton id) (List.forall_mem_singleton.mpr h)

theorem Nodes.checkBatch_one (limits : Settings) (id : Json) : checkBatch limits [id] =
    if 1 ≤ limits.maxItemsPerRequest then .ok () else reject (.tooMany "node_ids") := by
  rw [checkBatch, List.length_singleton]
  by_cases hbatch : 1 ≤ limits.maxItemsPerRequest
  · rw [if_pos hbatch, if_neg (by omega)]
  · rw [if_neg hbatch, if_pos (by omega)]

/-- One who sees a node, and may name one node in a request, is shown the node of the identifier. -/
theorem Nodes.get_visible (limits : Settings) {username : String} {n : Node} (hs : s.KeyedTables)
    (hn : n ∈ s.nodes) (hid : Identifier.IsNormal n.id) (huser : s.hasUser username)
    (hsees : n.VisibleTo username) (hbatch : 1 ≤ limits.maxItemsPerRequest) :
    ∃ k ∈ s.nodes, k.id = n.id ∧ get limits username [.str n.id] s = .ok [k] := by
  have hfew := (checkBatch_one limits (.str n.id)).trans (if_pos hbatch)
  have hknown : discard (Accounts.require s username) = .ok () :=
    Accounts.discard_require_eq_ok.mpr huser
  have hanswers := Query.idPlan_answers [n.id] username
  have hfault : (Query.idPlan [n.id] username).fault? = none :=
    Query.idPlan_fault? (by simp) username
  obtain ⟨found, hfound⟩ := Query.exists_fetch hanswers hfault s
  obtain ⟨hlength, hshown⟩ := Query.fetch_eq_ok hs hanswers hfound
  have hselected :
      n ∈ Query.newestNodes (s.nodes.filter (Query.idPlan [n.id] username).selects) := by
    have hselects : (Query.idPlan [n.id] username).selects n := by
      simp [Query.idPlan_selects, hsees]
    exact mem_sortBy.mpr (List.mem_filter.mpr ⟨hn, hselects⟩)
  have hpos := List.length_pos_of_mem hselected
  have hone : found.length = 1 := by
    have hlimit : (Query.idPlan [n.id] username).limit = 1 := rfl
    rw [hlength, hlimit, Query.page, if_neg (by omega), List.length_take]
    omega
  obtain ⟨k, rfl⟩ := List.length_eq_one_iff.mp hone
  obtain ⟨hk, hkid⟩ := hshown k List.mem_cons_self
  rw [Query.idPlan_selects, Bool.and_eq_true, decide_eq_true_iff, List.mem_singleton] at hkid
  refine ⟨k, hk, hkid.1, ?_⟩
  simp only [get, hfew, hknown, hid.parseAll_eq, hfound, Outcome.ok_bind]
  rfl

theorem Nodes.get_only (limits : Settings) {username : String} {n : Node} (hs : s.KeyedTables)
    (hn : n ∈ s.nodes) (honly : ∀ k ∈ s.nodes, k.id = n.id → k = n)
    (hid : Identifier.IsNormal n.id) (huser : s.hasUser username) (hsees : n.VisibleTo username)
    (hbatch : 1 ≤ limits.maxItemsPerRequest) : get limits username [.str n.id] s = .ok [n] := by
  obtain ⟨k, hk, hkid, hget⟩ := get_visible limits hs hn hid huser hsees hbatch
  rwa [honly k hk hkid] at hget

theorem Nodes.get_added (limits : Settings) {username : String} {n : Node} (ht : t.KeyedTables)
    (written : s.addNode n = some t) (hnew : ¬ s.hasNode n.id) (hid : Identifier.IsNormal n.id)
    (huser : s.hasUser username) (hsees : n.VisibleTo username)
    (hbatch : 1 ≤ limits.maxItemsPerRequest) : get limits username [.str n.id] t = .ok [n] := by
  have hnodes := Store.nodes_addNode written
  refine get_only limits ht (hnodes.mem_iff.mpr List.mem_cons_self) ?_ hid ?_ hsees hbatch
  · intro k hk hkid
    rcases List.mem_cons.mp (hnodes.mem_iff.mp hk) with rfl | hold
    · rfl
    · exact absurd (Store.hasNode_iff.mpr ⟨k, hold, hkid⟩) hnew
  · rwa [Store.hasUser_addNode written]

theorem Nodes.readBack_fails {limits : Settings} (hnone : limits.maxItemsPerRequest < 1)
    (username id : String) (s : Store) :
    readBack limits username id s = reject (.tooMany "node_ids") := by
  rw [readBack, get, checkBatch_one, if_neg (by omega)]
  rfl

/-- A call for a new node answers with a node or leaves the store, provided that a request may name
one node. -/
theorem Call.createNode_answers {username : String} {body : Json} (hs : s.KeyedTables)
    (asked : c.operation = .createNode username body)
    (hbatch : 1 ≤ c.limits.maxItemsPerRequest) :
    (∃ n, c.result s = .ok (.node n)) ∨ c.after s = s := by
  have hmade := c.creation asked (s := s)
  have hkeyed := (c.effect s).keyedTables hs
  generalize c.result s = outcome, c.after s = t at hmade hkeyed ⊢
  cases hmade with
  | refused | unstored => exact .inr rfl
  | @stored fields _ _ known written =>
    have hnew := (Store.nodes_addNode written).mem_iff.mpr List.mem_cons_self
    have huser : t.hasUser username := by rwa [Store.hasUser_addNode written]
    have hsees : (Nodes.ofBody c.drawn username c.now fields).VisibleTo username :=
      .inl (Nodes.owner_ofBody ..)
    obtain ⟨k, _, _, hget⟩ := Nodes.get_visible c.limits hkeyed hnew
      ((Nodes.id_ofBody ..).symm ▸ c.drawn_isNormal) huser hsees hbatch
    rw [Nodes.id_ofBody] at hget
    refine .inl ⟨k, ?_⟩
    rw [Nodes.readBack, hget]
    rfl

end FileShare

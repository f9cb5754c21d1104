import FileShare.Proofs.Identifiers
import FileShare.Proofs.Missing
import FileShare.Proofs.Runs.Identity
import FileShare.Proofs.Search.Lookups

/-! # Who may write

Only an owner deletes a node, a node is made for the user who asks, and only those with the right to
edit a node change it. Two kinds of calls reach further: a deletion takes the deleted identifiers
out of all contents, and the end of an account takes its grants away; neither does more than that to
the nodes of others.
-/
namespace FileShare

variable {c : Call} {s t : Store}

namespace Effect

theorem disappears (h : Effect c s t) {n : Node} (hn : n ∈ s.nodes) (hgone : ¬ t.hasNode n.id) :
    ∃ ids named, c.operation = .deleteNodes n.owner ids ∧
      Identifier.parseAll (some "node_ids") ids = .ok named ∧ n.id ∈ named := by
  have hhad : n.id ∈ s.nodes.map Node.id := List.mem_map_of_mem hn
  rw [Store.hasNode_iff_mem] at hgone
  rcases h.ids with hsame | ⟨_, m, _, _, _, hmore⟩ | ⟨username, ids, named, asked, parsed, rfl⟩
  · exact absurd (hsame ▸ hhad) hgone
  · have hmem : n ∈ t.nodes := hmore.mem_iff.mpr (List.mem_cons_of_mem m hn)
    exact absurd (List.mem_map_of_mem hmem) hgone
  · by_cases howned : n.id ∈ named ∧ n.owner = username
    · obtain ⟨hnamed, rfl⟩ := howned
      exact ⟨ids, named, asked, parsed, hnamed⟩
    · have hmem := Store.mem_nodes_remove.mpr ⟨n, hn, howned, rfl⟩
      exact absurd (List.mem_map.mpr ⟨_, hmem, Node.id_withoutContents n _⟩) hgone

theorem appears (h : Effect c s t) {n : Node} (hn : n ∈ t.nodes) (hnew : ¬ s.hasNode n.id) :
    ∃ body, c.operation = .createNode n.owner body ∧ n.id = c.drawn ∧ s.hasUser n.owner := by
  have hhas : n.id ∈ t.nodes.map Node.id := List.mem_map_of_mem hn
  rw [Store.hasNode_iff_mem] at hnew
  rcases h.ids with hsame | ⟨body, m, asked, known, hdrawn, hmore⟩ | ⟨_, _, _, _, _, rfl⟩
  · exact absurd (hsame ▸ hhas) hnew
  · rcases List.mem_cons.mp (hmore.mem_iff.mp hn) with rfl | hold
    · exact ⟨body, asked, hdrawn, known⟩
    · exact absurd (List.mem_map_of_mem hold) hnew
  · obtain ⟨k, hk, _, rfl⟩ := Store.mem_nodes_remove.mp hn
    rw [Node.id_withoutContents] at hnew
    exact absurd (List.mem_map_of_mem hk) hnew

theorem changes (h : Effect c s t) (hs : s.Keyed) (hfresh : c.Fresh s) {n n' : Node}
    (hn : n ∈ s.nodes) (hn' : n' ∈ t.nodes) (hid : n'.id = n.id) (hne : n' ≠ n) :
    (∃ username id body, c.operation = .updateNode username id body ∧
      Identifier.parse (some "node_id") id = .ok n.id ∧ n.EditableBy username) ∨
    (∃ username ids removed, c.operation = .deleteNodes username ids ∧
      (∀ id, id ∈ removed ↔ s.hasNode id ∧ ¬ t.hasNode id) ∧ n' = n.withoutContents removed) ∨
    (∃ u ∈ s.users, c.operation = .deleteUser u.username ∧ ¬ t.hasUserId u.id ∧
      n' = n.withoutGrants u.username) := by
  have hsame : n' ∉ s.nodes := fun hmem => hne (hs.eq_of_id hmem hn hid)
  cases h with
  | nothing | register | amend => exact absurd hn' hsame
  | @dismiss username u asked found =>
    rw [Store.nodes_revokeGrants] at hn'
    obtain ⟨k, hk, rfl⟩ := List.mem_map.mp hn'
    rw [Node.id_withoutGrants] at hid
    cases hs.eq_of_id hk hn hid
    have hname : u.username = username := by simpa using List.find?_some found
    subst hname
    refine .inr (.inr ⟨u, List.mem_of_find?_eq_some found, asked, ?_, rfl⟩)
    simp [Store.hasUserId, Store.revokeGrants, Store.removeUser]
  | create asked _ _ written =>
    rcases List.mem_cons.mp ((Store.nodes_addNode written).mem_iff.mp hn') with rfl | hold
    · rw [Nodes.id_ofBody] at hid
      exact absurd (Store.hasNode_iff.mpr ⟨n, hn, hid.symm⟩) (hfresh.not_hasNode asked)
    · exact absurd hold hsame
  | @change username target id body _ m _ asked named _ found _ =>
    obtain ⟨hm, rfl, heditable⟩ := Query.editable_of_fetch hs found List.mem_cons_self
    rw [Store.nodes_replaceNode hs hm] at hn'
    obtain ⟨k, hk, rfl⟩ := List.mem_map.mp hn'
    by_cases hkm : k.id = m.id
    · rw [if_pos hkm, Nodes.id_applyPatch] at hid
      cases hs.eq_of_id hm hn hid
      exact .inl ⟨username, id, body, asked, named, heditable⟩
    · rw [if_neg hkm] at hsame
      exact absurd hk hsame
  | remove asked =>
    obtain ⟨k, hk, _, rfl⟩ := Store.mem_nodes_remove.mp hn'
    rw [Node.id_withoutContents] at hid
    cases hs.eq_of_id hk hn hid
    exact .inr (.inl ⟨_, _, _, asked, fun _ => hs.mem_ownedAmong_iff, rfl⟩)

end Effect

/-! ## Refusals -/

section Target
variable {limits : Settings} {username : String} {id body : Json} {n : Node} (hs : s.Keyed)
  (hn : n ∈ s.nodes) (huser : s.hasUser username)
  (hid : Identifier.parse (some "node_id") id = .ok n.id)
  (hbody : Accounts.isEmptyObject body = false)
include hs hn huser hid hbody

/-- A patch of a node that exists is a matter of its body, for those who may edit the node. -/
theorem Nodes.update_eq (now : Instant) :
    update limits now username id body s =
      if n.EditableBy username then do
        let patch ← (← Body.checkPatch limits s n.kind body).encode
        return s.replaceNode (applyPatch now patch n)
      else reject (.notFound id "node_id") := by
  have hu : discard (Accounts.require s username) = .ok () :=
    Accounts.discard_require_eq_ok.mpr huser
  have hfetch := Query.fetch_editPlan_id hs hn username
  simp only [update, hid, hbody, hu, hfetch, Outcome.ok_bind, Bool.false_eq_true, ↓reduceIte]
  by_cases heditable : n.EditableBy username <;> simp only [heditable, ↓reduceIte]

/-- A patch of a node that exists is refused for want of the node exactly if the user may not
edit it. No other fault is reported under the identifier of a node that is there. -/
theorem Nodes.update_notFound_iff (now : Instant) :
    update limits now username id body s = .error (.rejected (.notFound id "node_id")) ↔
      ¬ n.EditableBy username := by
  rw [update_eq hs hn huser hid hbody]
  by_cases heditable : n.EditableBy username
  · simp only [heditable, ↓reduceIte, not_true_eq_false, iff_false]
    intro hmissing
    have hreports : Outcome.ReportsOnly
        (Body.checkPatch limits s n.kind body >>= fun patch => patch.encode >>= fun written =>
          pure (s.replaceNode (applyPatch now written n))) (Body.Missing s) :=
      (Body.checkPatch_reports limits s n.kind body).bind fun patch _ =>
        (Outcome.ReportsOnly.of_broken patch.encode_fails).bind fun _ _ =>
          Outcome.reportsOnly_pure _
    obtain ⟨other, hother, hnode⟩ := (hreports id "node_id" hmissing).of_node
    obtain ⟨x, rfl, _, hx⟩ := Identifier.parse_eq_ok.mp hid
    obtain ⟨y, hy, _, rfl⟩ := Identifier.parse_eq_ok.mp hother
    cases hy
    exact hnode (Store.hasNode_iff.mpr ⟨n, hn, hx.symm⟩)
  · simp only [heditable, ↓reduceIte, not_false_eq_true, iff_true]
    rfl

end Target

theorem Call.result_updateNode {username : String} {id body : Json} {e : Failure}
    (h : c.operation = .updateNode username id body) :
    c.result s = .error e ↔ Nodes.update c.limits c.now username id body s = .error e := by
  simp only [Call.result, Call.run, h, Operation.run]
  cases Nodes.update c.limits c.now username id body s <;> simp [Operation.writing]

/-! ## The rule -/

/-- What a call does to the nodes is what those who ask for it may do. -/
structure Call.Authorized (c : Call) (s : Store) : Prop where
  /-- A node that goes away was deleted for its owner. -/
  deletion : ∀ n ∈ s.nodes, ¬ (c.after s).hasNode n.id →
    ∃ ids named, c.operation = .deleteNodes n.owner ids ∧
      Identifier.parseAll (some "node_ids") ids = .ok named ∧ n.id ∈ named
  /-- A node that is new was made for its owner. -/
  creation : ∀ n ∈ (c.after s).nodes, ¬ s.hasNode n.id →
    ∃ body, c.operation = .createNode n.owner body ∧ n.id = c.drawn ∧ s.hasUser n.owner
  /-- A node that differs was edited by one who may, or it lost from its contents what the call
  deleted, or it lost from its grants those of the account that the call ended. -/
  change : ∀ n ∈ s.nodes, ∀ n' ∈ (c.after s).nodes, n'.id = n.id → n' ≠ n →
    (∃ username id body, c.operation = .updateNode username id body ∧
      Identifier.parse (some "node_id") id = .ok n.id ∧ n.EditableBy username) ∨
    (∃ username ids removed, c.operation = .deleteNodes username ids ∧
      (∀ id, id ∈ removed ↔ s.hasNode id ∧ ¬ (c.after s).hasNode id) ∧
      n' = n.withoutContents removed) ∨
    (∃ u ∈ s.users, c.operation = .deleteUser u.username ∧ ¬ (c.after s).hasUserId u.id ∧
      n' = n.withoutGrants u.username)
  /-- Who may not edit a node is told that there is none, and nobody else is. The name of a
  requester is never the one that stands for everyone. -/
  refusal : ∀ n ∈ s.nodes, ∀ username id body, c.operation = .updateNode username id body →
    s.hasUser username → Identifier.parse (some "node_id") id = .ok n.id →
    Accounts.isEmptyObject body = false →
    username ≠ publicGrantee ∧
      (c.result s = .error (.rejected (.notFound id "node_id")) ↔ ¬ n.EditableBy username)

/-- Every call of every run keeps to the rule. -/
theorem writes_authorized (h : Reachable Call.Fresh s) (hfresh : c.Fresh s) : c.Authorized s where
  deletion _ hn hgone := (c.effect s).disappears hn hgone
  creation _ hn hnew := (c.effect s).appears hn hnew
  change _ hn _ hn' hid hne := (c.effect s).changes h.keyed hfresh hn hn' hid hne
  refusal _ hn _ _ _ asked huser hid hbody :=
    ⟨h.unreserved.ne_public huser, (Call.result_updateNode asked).trans
      (Nodes.update_notFound_iff h.keyed hn huser hid hbody _)⟩

theorem writes_authorized_sample :
    Reachable Call.Fresh Sample.shelf ∧ Sample.discard.Fresh Sample.shelf ∧
      .file Sample.track ∈ Sample.shelf.nodes ∧
      ¬ (Sample.discard.after Sample.shelf).hasNode Sample.track.id ∧
      Sample.discard.Authorized Sample.shelf := by
  have hfresh : Sample.discard.Fresh Sample.shelf := by decide
  refine ⟨Sample.shelf_reachable, hfresh, ?_, by decide, ?_⟩
  · exact List.mem_cons_self
  · exact writes_authorized Sample.shelf_reachable hfresh

end FileShare

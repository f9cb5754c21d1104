import FileShare.Proofs.AccountFields
import FileShare.Proofs.Runs.AccountCalls

/-! # Identity through a run

Drawn identifiers are normal and keep the kinds of the tables apart; as long as they are fresh, the
identifiers of the nodes stay keys. No account takes the name that stands for everyone.
-/
namespace FileShare

namespace Store.Keyed
variable {s : Store} (hs : s.Keyed)
include hs

/-- The pulled identifiers are those of the nodes that are deleted. -/
theorem mem_ownedAmong_iff {owner id : String} {ids : List String} :
    id ∈ s.ownedAmong owner ids ↔ s.hasNode id ∧
      ¬ ((s.removeOwned owner ids).pullFromContents (s.ownedAmong owner ids)).hasNode id := by
  simp only [mem_ownedAmong, hasNode_iff]
  constructor
  · rintro ⟨n, hn, rfl, hnamed, howner⟩
    refine ⟨⟨n, hn, rfl⟩, ?_⟩
    rintro ⟨_, hleft, hid⟩
    obtain ⟨k, hk, hstays, rfl⟩ := mem_nodes_remove.mp hleft
    rw [Node.id_withoutContents] at hid
    cases hs.eq_of_id hk hn hid
    exact hstays ⟨hnamed, howner⟩
  · rintro ⟨⟨n, hn, rfl⟩, hgone⟩
    by_contra hstays
    refine hgone ⟨_, mem_nodes_remove.mpr ⟨n, hn, ?_, rfl⟩, Node.id_withoutContents n _⟩
    exact fun howned => hstays ⟨n, hn, rfl, howned⟩

end Store.Keyed

theorem Query.mem_of_fetch {s : Store} {p : Query.Plan} {found : List Node} {n : Node}
    (h : Query.fetch s p = .ok found) (hn : n ∈ found) : n ∈ s.nodes := by
  obtain ⟨rows, _, h⟩ := Outcome.bind_eq_ok.mp h
  cases h
  obtain ⟨r, _, hr⟩ := List.mem_filterMap.mp hn
  rcases Option.or_eq_some_iff.mp hr with hmeta | ⟨_, hfile⟩
  · obtain ⟨m, hm, rfl⟩ := Option.map_eq_some_iff.mp hmeta
    split at hm
    · exact Store.mem_nodes_metaNode.mpr (List.mem_of_find?_eq_some hm)
    · simp at hm
  · obtain ⟨f, hf, rfl⟩ := Option.map_eq_some_iff.mp hfile
    split at hf
    · exact Store.mem_nodes_file.mpr (List.mem_of_find?_eq_some hf)
    · simp at hf

namespace Body

/-- A new node that is not a file is of another kind. -/
theorem Accepts.kind_ne {limits : Settings} {s : Store} {body : Json.Object}
    {fields : NewNode String} (h : Accepts limits s body fields) (id owner : String)
    (now : Instant) (m : MetaNode) (hm : Nodes.ofBody id owner now fields = .metaNode m) :
    m.kind ≠ fileKind := by
  cases h with
  | file => cases hm
  | metaNode _ _ hother =>
    cases hm
    exact hother

end Body

variable {c : Call} {s t : Store}

theorem Effect.ids (h : Effect c s t) :
    t.nodes.map Node.id = s.nodes.map Node.id ∨
    (∃ body n, c.operation = .createNode n.owner body ∧ s.hasUser n.owner ∧ n.id = c.drawn ∧
      t.nodes.Perm (n :: s.nodes)) ∨
    (∃ username ids named, c.operation = .deleteNodes username ids ∧
      Identifier.parseAll (some "node_ids") ids = .ok named ∧
      t = (s.removeOwned username named).pullFromContents (s.ownedAmong username named)) := by
  cases h with
  | nothing | register | amend => exact .inl rfl
  | dismiss => exact .inl (Store.map_id_revokeGrants _ _)
  | @create username body fields _ asked _ known written =>
    have howner := Nodes.owner_ofBody c.drawn username c.now fields
    refine .inr (.inl ⟨body, _, ?_, ?_, Nodes.id_ofBody .., Store.nodes_addNode written⟩)
    · rw [howner, asked]
    · rw [howner, known]
  | change => exact .inl (Store.map_id_replaceNode _)
  | remove asked parsed _ => exact .inr (.inr ⟨_, _, _, asked, parsed, rfl⟩)

theorem Effect.kinds (h : Effect c s t) (hs : ∀ m ∈ s.metas, m.kind ≠ fileKind) :
    ∀ m ∈ t.metas, m.kind ≠ fileKind := by
  cases h with
  | nothing | register | amend => exact hs
  | dismiss => simpa [Store.revokeGrants, Store.removeUser] using hs
  | create _ checked _ written =>
    obtain ⟨body, _, haccepts⟩ := Body.checkNew_accepts checked
    intro m hm
    have hmem := (Store.nodes_addNode written).mem_iff.mp (Store.mem_nodes_metaNode.mpr hm)
    rcases List.mem_cons.mp hmem with hnew | hold
    · exact haccepts.kind_ne _ _ _ m hnew.symm
    · exact hs m (Store.mem_nodes_metaNode.mp hold)
  | @change _ _ _ _ patch n _ _ _ _ found _ =>
    intro m hm
    rcases Store.mem_replaceNode (Store.mem_nodes_metaNode.mpr hm) with hold | hnew
    · exact hs m (Store.mem_nodes_metaNode.mp hold)
    · cases n with
      | file f => cases hnew
      | metaNode k =>
        have hkind : m.kind = k.kind :=
          (congrArg Node.kind hnew).trans (Nodes.kind_applyPatch c.now patch (.metaNode k))
        have hk := Query.mem_of_fetch found List.mem_cons_self
        exact hkind ▸ hs k (Store.mem_nodes_metaNode.mp hk)
  | remove =>
    intro m hm
    obtain ⟨k, hk, rfl⟩ := List.mem_map.mp hm
    exact hs k (List.mem_filter.mp hk).1

theorem Reachable.kinds {allowed : Call → Store → Prop} (h : Reachable allowed s) :
    ∀ m ∈ s.metas, m.kind ≠ fileKind :=
  h.invariant (fun _ hm => absurd hm List.not_mem_nil) fun _ _ _ _ heffect hs => heffect.kinds hs

theorem Effect.keyed (h : Effect c s t) (hfresh : c.Fresh s) (hs : s.Keyed) : t.Keyed := by
  refine ⟨?_, h.kinds hs.kinds⟩
  rcases h.ids with hsame | ⟨body, n, asked, _, hdrawn, hmore⟩ | ⟨_, _, _, _, _, rfl⟩
  · exact hsame ▸ hs.ids
  · have hnew : n.id ∉ s.nodes.map Node.id := fun hmem =>
      hfresh.not_hasNode asked (hdrawn ▸ Store.hasNode_iff_mem.mpr hmem)
    exact ((hmore.map Node.id).nodup_iff).mpr (List.nodup_cons.mpr ⟨hnew, hs.ids⟩)
  · exact hs.ids.sublist (Store.map_id_remove_sublist _ _ _)

theorem Reachable.keyed (h : Reachable Call.Fresh s) : s.Keyed :=
  h.invariant ⟨List.nodup_nil, fun _ hm => absurd hm List.not_mem_nil⟩
    fun _ _ _ hfresh heffect hs => heffect.keyed hfresh hs

theorem Call.drawn_isNormal (c : Call) : Identifier.IsNormal c.drawn :=
  c.generator.draw_isNormal c.now

theorem Effect.normalIds (h : Effect c s t) (hs : ∀ n ∈ s.nodes, Identifier.IsNormal n.id) :
    ∀ n ∈ t.nodes, Identifier.IsNormal n.id := by
  rw [← List.forall_mem_map (P := Identifier.IsNormal)] at hs ⊢
  rcases h.ids with hsame | ⟨_, m, _, _, hdrawn, hmore⟩ | ⟨_, _, _, _, _, rfl⟩
  · exact hsame ▸ hs
  · intro id hid
    rcases List.mem_cons.mp ((hmore.map Node.id).mem_iff.mp hid) with rfl | hid
    · exact hdrawn ▸ c.drawn_isNormal
    · exact hs id hid
  · exact fun id hid => hs id ((Store.map_id_remove_sublist _ _ _).subset hid)

theorem Reachable.normalIds {allowed : Call → Store → Prop} (h : Reachable allowed s) :
    ∀ n ∈ s.nodes, Identifier.IsNormal n.id :=
  h.invariant (fun _ hn => absurd hn List.not_mem_nil) fun _ _ _ _ heffect hs =>
    heffect.normalIds hs

/-! ## The reserved name -/

namespace Accounts

theorem checkNew_ne_public {limits : Settings} {v : Json} {fields : NewUser}
    (h : checkNew limits v = .ok fields) : fields.username ≠ publicGrantee := by
  obtain ⟨body, _, _, _, _, hname, _⟩ := checkNew_eq_ok.mp h
  exact (checkUsername_eq_ok.mp hname).2.2

end Accounts

/-- No account has the name that stands for everyone. -/
def Store.Unreserved (s : Store) : Prop := ∀ u ∈ s.users, u.username ≠ publicGrantee

theorem Reachable.unreserved {allowed : Call → Store → Prop} (h : Reachable allowed s) :
    s.Unreserved :=
  h.forall_users (fun _ _ _ _ _ checked => Accounts.checkNew_ne_public checked)
    fun _ _ _ _ _ _ _ hu => (Accounts.username_apply _ _).symm ▸ hu

theorem Store.Unreserved.ne_public (hs : s.Unreserved) {username : String}
    (h : s.hasUser username) : username ≠ publicGrantee := by
  obtain ⟨u, hu, rfl⟩ := hasUser_iff.mp h
  exact hs u hu

end FileShare

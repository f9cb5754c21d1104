import FileShare.Proofs.Identifiers
import FileShare.Proofs.Runs.Identity

/-! # Contents never dangle

Directories and symlinks hold identifiers of other nodes, and nothing in the tables ties these to
the nodes. That the nodes exist is kept up by the checks of bodies and by the pulling of deleted
identifiers out of all contents.
-/
namespace FileShare

/-- Identifiers that a node of a kind may hold. -/
structure SoundContents (s : Store) (kind : String) (ids : List String) : Prop where
  exist : ∀ id ∈ ids, s.hasNode id
  distinct : ids.Nodup
  normal : ∀ id ∈ ids, Identifier.IsNormal id
  single : kind = symlinkKind → ids.length ≤ 1

def Store.Sound (s : Store) : Prop := ∀ n ∈ s.nodes, SoundContents s n.kind n.contents

namespace SoundContents
variable {s t : Store} {kind : String} {ids : List String}

theorem nil : SoundContents s kind [] :=
  ⟨fun _ h => absurd h List.not_mem_nil, List.nodup_nil, fun _ h => absurd h List.not_mem_nil,
    fun _ => Nat.zero_le 1⟩

theorem mono (h : SoundContents s kind ids) (hst : ∀ id, s.hasNode id → t.hasNode id) :
    SoundContents t kind ids :=
  { h with exist := fun id hid => hst id (h.exist id hid) }

theorem filter (h : SoundContents s kind ids) {keep : String → Bool}
    (hst : ∀ id, keep id → s.hasNode id → t.hasNode id) :
    SoundContents t kind (ids.filter keep) := by
  refine ⟨?_, h.distinct.filter _, ?_, ?_⟩
  · intro id hid
    obtain ⟨hid, hkeep⟩ := List.mem_filter.mp hid
    exact hst id hkeep (h.exist id hid)
  · exact fun id hid => h.normal id (List.mem_filter.mp hid).1
  · exact fun hkind => Nat.le_trans (List.length_filter_le _ _) (h.single hkind)

theorem of_check {limits : Settings} {v : Json}
    (h : Body.checkContents limits s kind v = .ok ids) : SoundContents s kind ids := by
  obtain ⟨items, parsed, _, hmost, hparsed, hall, rfl⟩ := Body.checkContents_eq_ok.mp h
  refine ⟨fun id hid => hall id (List.mem_eraseDups.mp hid), nodup_eraseDups parsed, ?_, ?_⟩
  · intro id hid
    obtain ⟨item, _, hitem⟩ := Outcome.exists_mem_of_forall₂ hparsed (List.mem_eraseDups.mp hid)
    exact Identifier.isNormal_of_parse hitem
  · intro hkind
    rw [Body.mostContents, if_pos hkind] at hmost
    have hshort : parsed.length ≤ 1 := by
      rw [← hparsed.length_eq]
      omega
    match parsed, hshort with
    | [], _ => simp
    | [id], _ => simp [List.eraseDups_cons]

end SoundContents

namespace Nodes

theorem contents_ofBody {limits : Settings} {s : Store} {body : Json.Object}
    {fields : Body.NewNode String} (h : Body.Accepts limits s body fields) (id owner : String)
    (now : Instant) :
    SoundContents s (ofBody id owner now fields).kind (ofBody id owner now fields).contents := by
  cases h with
  | file => exact .nil
  | metaNode _ _ _ _ _ hcontents => exact .of_check hcontents

theorem contents_applyPatch {limits : Settings} {s : Store} {n : Node} {v : Json}
    {p : Body.Patch String} (h : Body.checkPatch limits s n.kind v = .ok p.raw) (now : Instant)
    (hn : SoundContents s n.kind n.contents) :
    SoundContents s (applyPatch now p n).kind (applyPatch now p n).contents := by
  rw [kind_applyPatch]
  cases n with
  | file f => exact .nil
  | metaNode m =>
    have hwritten : (applyPatch now p (.metaNode m)).contents = p.contents.getD m.contents := by
      simp only [applyPatch, Node.contents, applyToMeta]
      split <;> split <;> rfl
    rw [hwritten]
    cases hcontents : p.contents with
    | none => exact hn
    | some ids =>
      obtain ⟨w, hw⟩ := Body.checkPatch_contents h hcontents
      exact .of_check hw

end Nodes

variable {c : Call} {s t : Store}

namespace Store.Sound
variable (hs : s.Sound)
include hs

theorem of_tables (hfiles : t.files = s.files) (hmetas : t.metas = s.metas) : t.Sound := by
  have hnodes : t.nodes = s.nodes := by rw [nodes, nodes, hfiles, hmetas]
  intro n hn
  refine (hs n (hnodes ▸ hn)).mono fun id hid => ?_
  rwa [hasNode_iff_mem, hnodes, ← hasNode_iff_mem]

theorem revokeGrants (username : String) : (s.revokeGrants username).Sound := by
  intro n hn
  rw [nodes_revokeGrants] at hn
  obtain ⟨k, hk, rfl⟩ := List.mem_map.mp hn
  rw [Node.kind_withoutGrants, Node.contents_withoutGrants]
  refine (hs k hk).mono fun id hid => ?_
  rwa [hasNode_iff_mem, map_id_revokeGrants, ← hasNode_iff_mem]

theorem addNode {n : Node} (h : s.addNode n = some t) (hn : SoundContents s n.kind n.contents) :
    t.Sound := by
  have hkept : ∀ id, s.hasNode id → t.hasNode id := by
    intro id hid
    obtain ⟨k, hk, rfl⟩ := hasNode_iff.mp hid
    exact hasNode_iff.mpr ⟨k, (nodes_addNode h).mem_iff.mpr (List.mem_cons_of_mem n hk), rfl⟩
  intro k hk
  rcases List.mem_cons.mp ((nodes_addNode h).mem_iff.mp hk) with rfl | hk
  · exact hn.mono hkept
  · exact (hs k hk).mono hkept

theorem replaceNode {n : Node} (hn : SoundContents s n.kind n.contents) :
    (s.replaceNode n).Sound := by
  have hkept : ∀ id, s.hasNode id → (s.replaceNode n).hasNode id := by
    intro id hid
    rwa [hasNode_iff_mem, map_id_replaceNode, ← hasNode_iff_mem]
  intro k hk
  rcases mem_replaceNode hk with hk | rfl
  · exact (hs k hk).mono hkept
  · exact hn.mono hkept

/-- A node that goes away is one of the pulled identifiers, so the others keep their nodes. -/
theorem remove (owner : String) (ids : List String) :
    ((s.removeOwned owner ids).pullFromContents (s.ownedAmong owner ids)).Sound := by
  intro n hn
  obtain ⟨k, hk, _, rfl⟩ := mem_nodes_remove.mp hn
  rw [Node.kind_withoutContents, Node.contents_withoutContents]
  refine (hs k hk).filter fun id hkept hid => ?_
  obtain ⟨m, hm, rfl⟩ := hasNode_iff.mp hid
  have hstays : ¬ (m.id ∈ ids ∧ m.owner = owner) := fun hgone =>
    of_decide_eq_true hkept (mem_ownedAmong.mpr ⟨m, hm, rfl, hgone⟩)
  exact hasNode_iff.mpr
    ⟨_, mem_nodes_remove.mpr ⟨m, hm, hstays, rfl⟩, Node.id_withoutContents m _⟩

end Store.Sound

theorem Effect.sound (h : Effect c s t) (hs : s.Sound) : t.Sound := by
  cases h with
  | nothing => exact hs
  | register | amend => exact hs.of_tables rfl rfl
  | dismiss => exact (hs.of_tables (t := s.removeUser _) rfl rfl).revokeGrants _
  | create _ checked _ written =>
    obtain ⟨body, _, haccepts⟩ := Body.checkNew_accepts checked
    exact hs.addNode written (Nodes.contents_ofBody haccepts _ _ _)
  | change _ _ _ found checked =>
    have hn := hs _ (Query.mem_of_fetch found List.mem_cons_self)
    exact hs.replaceNode (Nodes.contents_applyPatch checked c.now hn)
  | remove => exact hs.remove _ _

theorem Reachable.sound {allowed : Call → Store → Prop} (h : Reachable allowed s) : s.Sound :=
  h.invariant (fun _ hn => absurd hn List.not_mem_nil) fun _ _ _ _ heffect hs => heffect.sound hs

/-- In every run, whatever is asked for and in whatever order, the contents of every directory and
symlink are distinct normal identifiers of nodes that exist. -/
theorem contents_never_dangle {allowed : Call → Store → Prop} (h : Reachable allowed s) :
    ∀ m ∈ s.metas,
      (∀ id ∈ m.contents, (∃ f ∈ s.files, f.id = id) ∨ ∃ k ∈ s.metas, k.id = id) ∧
      m.contents.Nodup ∧ (∀ id ∈ m.contents, Identifier.IsNormal id) ∧
      (m.kind = symlinkKind → m.contents.length ≤ 1) := by
  intro m hm
  have hsound : SoundContents s m.kind m.contents :=
    h.sound (.metaNode m) (Store.mem_nodes_metaNode.mpr hm)
  refine ⟨fun id hid => ?_, hsound.distinct, hsound.normal, hsound.single⟩
  obtain ⟨k, hk, rfl⟩ := Store.hasNode_iff.mp (hsound.exist id hid)
  cases k with
  | file f => exact .inl ⟨f, Store.mem_nodes_file.mp hk, rfl⟩
  | metaNode k => exact .inr ⟨k, Store.mem_nodes_metaNode.mp hk, rfl⟩

theorem contents_never_dangle_sample :
    Reachable Call.Fresh Sample.shelf ∧
      ∀ m ∈ Sample.shelf.metas,
        (∀ id ∈ m.contents,
          (∃ f ∈ Sample.shelf.files, f.id = id) ∨ ∃ k ∈ Sample.shelf.metas, k.id = id) ∧
        m.contents.Nodup ∧ (∀ id ∈ m.contents, Identifier.IsNormal id) ∧
        (m.kind = symlinkKind → m.contents.length ≤ 1) :=
  ⟨Sample.shelf_reachable, contents_never_dangle Sample.shelf_reachable⟩

end FileShare

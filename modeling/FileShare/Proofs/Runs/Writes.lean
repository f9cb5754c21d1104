import FileShare.Proofs.Keys
import FileShare.Nodes

/-! # What the writes do to the nodes

The store writes row by row and table by table. Here each write is read as one on the nodes of both
tables: it puts one node in front, maps a function over the nodes, or filters them.
-/
namespace FileShare

namespace Node

def withoutGrants (username : String) : Node → Node
  | file f => .file { f with permissions := f.permissions.filter fun g => g.1 ≠ username }
  | metaNode m => .metaNode { m with permissions := m.permissions.filter fun g => g.1 ≠ username }

/-- What a node refers to. A file refers to nothing. -/
def contents : Node → List String
  | file _ => []
  | metaNode m => m.contents

def withoutContents (ids : List String) : Node → Node
  | file f => .file f
  | metaNode m => .metaNode { m with contents := m.contents.filter (· ∉ ids) }

section Fields
variable (n : Node) (username : String) (ids : List String)

@[simp] theorem id_withoutGrants : (n.withoutGrants username).id = n.id := by cases n <;> rfl

@[simp] theorem kind_withoutGrants : (n.withoutGrants username).kind = n.kind := by cases n <;> rfl

@[simp] theorem contents_withoutGrants : (n.withoutGrants username).contents = n.contents := by
  cases n <;> rfl

@[simp] theorem permissions_withoutGrants :
    (n.withoutGrants username).permissions = n.permissions.filter fun g => g.1 ≠ username := by
  cases n <;> rfl

@[simp] theorem id_withoutContents : (n.withoutContents ids).id = n.id := by cases n <;> rfl

@[simp] theorem kind_withoutContents : (n.withoutContents ids).kind = n.kind := by cases n <;> rfl

@[simp] theorem owner_withoutContents : (n.withoutContents ids).owner = n.owner := by
  cases n <;> rfl

@[simp] theorem contents_withoutContents :
    (n.withoutContents ids).contents = n.contents.filter (· ∉ ids) := by cases n <;> rfl

@[simp] theorem permissions_withoutContents :
    (n.withoutContents ids).permissions = n.permissions := by cases n <;> rfl

end Fields
end Node

namespace Nodes
variable (id owner username : String) (now : Instant) (fields : Body.NewNode String)
  (p : Body.Patch String) (n : Node)

@[simp] theorem id_ofBody : (ofBody id owner now fields).id = id := by cases fields <;> rfl

@[simp] theorem owner_ofBody : (ofBody id owner now fields).owner = owner := by
  cases fields <;> rfl

@[simp] theorem id_applyPatch : (applyPatch now p n).id = n.id := by
  cases n with
  | file f =>
    simp only [applyPatch, Node.id, applyToFile]
    split <;> split <;> split <;> split <;> rfl
  | metaNode m =>
    simp only [applyPatch, Node.id, applyToMeta]
    split <;> split <;> rfl

@[simp] theorem kind_applyPatch : (applyPatch now p n).kind = n.kind := by
  cases n with
  | file f => rfl
  | metaNode m =>
    simp only [applyPatch, Node.kind, applyToMeta]
    split <;> split <;> rfl

theorem permissions_applyPatch :
    (applyPatch now p n).permissions = (p.permissions.map sortGrants).getD n.permissions := by
  cases n with
  | file f =>
    simp only [applyPatch, Node.permissions, applyToFile]
    split <;> split <;> split <;> split <;> simp_all [FileNode.withName, FileNode.withPermissions,
      FileNode.withText, FileNode.withTags]
  | metaNode m =>
    simp only [applyPatch, Node.permissions, applyToMeta]
    split <;> split <;> simp_all [MetaNode.withName, MetaNode.withPermissions]

end Nodes

namespace Store
variable (s : Store)

theorem hasNode_iff_mem {s : Store} {id : String} : s.hasNode id ↔ id ∈ s.nodes.map Node.id := by
  rw [hasNode_iff, List.mem_map]

theorem nodes_revokeGrants (username : String) :
    (s.revokeGrants username).nodes = s.nodes.map (Node.withoutGrants username) := by
  simp only [nodes, revokeGrants, List.map_append, List.map_map]
  rfl

theorem map_id_revokeGrants (username : String) :
    (s.revokeGrants username).nodes.map Node.id = s.nodes.map Node.id := by
  rw [nodes_revokeGrants, List.map_map]
  exact List.map_congr_left fun n _ => n.id_withoutGrants username

theorem nodes_removeOwned (owner : String) (ids : List String) :
    (s.removeOwned owner ids).nodes = s.nodes.filter fun n => !(n.id ∈ ids && n.owner = owner) := by
  simp only [nodes, removeOwned, List.filter_append, List.filter_map]
  rfl

theorem nodes_pullFromContents (ids : List String) :
    (s.pullFromContents ids).nodes = s.nodes.map (Node.withoutContents ids) := by
  simp only [nodes, pullFromContents, List.map_append, List.map_map]
  rfl

theorem nodes_remove (owner : String) (ids : List String) :
    ((s.removeOwned owner ids).pullFromContents (s.ownedAmong owner ids)).nodes =
      (s.nodes.filter fun n => !(n.id ∈ ids && n.owner = owner)).map
        (Node.withoutContents (s.ownedAmong owner ids)) := by
  rw [nodes_pullFromContents, nodes_removeOwned]

theorem map_id_remove_sublist (owner : String) (ids : List String) :
    (((s.removeOwned owner ids).pullFromContents (s.ownedAmong owner ids)).nodes.map
      Node.id).Sublist (s.nodes.map Node.id) := by
  have hsame : Node.id ∘ Node.withoutContents (s.ownedAmong owner ids) = Node.id :=
    funext fun n => n.id_withoutContents _
  rw [nodes_remove, List.map_map, hsame]
  exact List.filter_sublist.map Node.id

theorem mem_nodes_remove {s : Store} {owner : String} {ids : List String} {n : Node} :
    n ∈ ((s.removeOwned owner ids).pullFromContents (s.ownedAmong owner ids)).nodes ↔
      ∃ k ∈ s.nodes, ¬ (k.id ∈ ids ∧ k.owner = owner) ∧
        k.withoutContents (s.ownedAmong owner ids) = n := by
  simp only [nodes_remove, List.mem_map, List.mem_filter, Bool.not_eq_true', ← Bool.not_eq_true,
    Bool.and_eq_true, decide_eq_true_eq, and_assoc]

theorem mem_ownedAmong {s : Store} {owner id : String} {ids : List String} :
    id ∈ s.ownedAmong owner ids ↔ ∃ n ∈ s.nodes, n.id = id ∧ id ∈ ids ∧ n.owner = owner := by
  simp only [ownedAmong, List.mem_map, List.mem_filter, Bool.and_eq_true, decide_eq_true_eq]
  constructor
  · rintro ⟨n, ⟨hn, hid, howner⟩, rfl⟩
    exact ⟨n, hn, rfl, hid, howner⟩
  · rintro ⟨n, hn, rfl, hid, howner⟩
    exact ⟨n, ⟨hn, hid, howner⟩, rfl⟩

variable {s}

theorem nodes_addNode {n : Node} {t : Store} (h : s.addNode n = some t) :
    t.nodes.Perm (n :: s.nodes) := by
  cases n with
  | file f =>
    obtain ⟨_, hrow⟩ := Option.ite_none_left_eq_some.mp h
    cases hrow
    simp only [nodes, List.map_append, List.map_cons, List.map_nil, List.append_assoc,
      List.cons_append, List.nil_append]
    exact List.perm_middle
  | metaNode m =>
    obtain ⟨_, hrow⟩ := Option.ite_none_left_eq_some.mp h
    cases hrow
    simp only [nodes, List.map_append, List.map_cons, List.map_nil, ← List.append_assoc]
    exact List.perm_append_singleton _ _

theorem users_addNode {n : Node} {t : Store} (h : s.addNode n = some t) : t.users = s.users := by
  cases n <;> obtain ⟨_, hrow⟩ := Option.ite_none_left_eq_some.mp h <;> cases hrow <;> rfl

theorem hasUser_addNode {n : Node} {t : Store} (h : s.addNode n = some t) (username : String) :
    t.hasUser username = s.hasUser username := by
  rw [hasUser, hasUser, userNamed?, userNamed?, users_addNode h]

theorem hasNode_of_addNode {n : Node} (h : s.addNode n = none) :
    s.hasNode n.id := by
  rw [hasNode_iff]
  cases n with
  | file f =>
    have hrow : ∃ g ∈ s.files, g.id = f.id := by simpa [addNode] using h
    obtain ⟨g, hg, hid⟩ := hrow
    exact ⟨.file g, mem_nodes_file.mpr hg, hid⟩
  | metaNode m =>
    have hrow : ∃ k ∈ s.metas, k.id = m.id := by simpa [addNode] using h
    obtain ⟨k, hk, hid⟩ := hrow
    exact ⟨.metaNode k, mem_nodes_metaNode.mpr hk, hid⟩

theorem addUser_eq_ok {u : User} {t : Store} :
    s.addUser u = .ok t ↔ s.clash? u = none ∧ { s with users := s.users ++ [u] } = t := by
  unfold addUser
  cases s.clash? u <;> simp

theorem replaceUser_eq_ok {u : User} {t : Store} :
    s.replaceUser u = .ok t ↔
      (∀ v ∈ s.users, v.id ≠ u.id → v.lowerEmail ≠ u.lowerEmail) ∧
        { s with users := s.users.map fun v => if v.id = u.id then u else v } = t := by
  unfold replaceUser
  split
  · rename_i h
    obtain ⟨v, hv, hclash⟩ := List.any_eq_true.mp h
    simp only [ne_eq, decide_not, Bool.and_eq_true, Bool.not_eq_eq_eq_not, Bool.not_true,
      decide_eq_false_iff_not, decide_eq_true_eq] at hclash
    simp only [reduceCtorEq, false_iff, not_and]
    exact fun hfree => absurd hclash.2 (hfree v hv hclash.1)
  · rename_i h
    simpa using fun _ => h

theorem ids_replaceNode (n : Node) :
    (s.replaceNode n).files.map FileNode.id = s.files.map FileNode.id ∧
      (s.replaceNode n).metas.map MetaNode.id = s.metas.map MetaNode.id := by
  cases n with
  | file f => exact ⟨map_key_replaced s.files f, rfl⟩
  | metaNode m => exact ⟨rfl, map_key_replaced s.metas m⟩

theorem users_replaceNode (n : Node) : (s.replaceNode n).users = s.users := by cases n <;> rfl

theorem map_id_replaceNode (n : Node) :
    (s.replaceNode n).nodes.map Node.id = s.nodes.map Node.id := by
  obtain ⟨hfiles, hmetas⟩ := ids_replaceNode (s := s) n
  rw [map_id_nodes, map_id_nodes, hfiles, hmetas]

theorem mem_replaceNode {n k : Node} (h : k ∈ (s.replaceNode n).nodes) : k ∈ s.nodes ∨ k = n := by
  cases n with
  | file f =>
    rcases List.mem_append.mp h with h | h
    · obtain ⟨_, hrow, rfl⟩ := List.mem_map.mp h
      obtain ⟨g, hg, rfl⟩ := List.mem_map.mp hrow
      by_cases hid : g.id = f.id <;> simp [hid, hg]
    · exact .inl (List.mem_append_right _ h)
  | metaNode m =>
    rcases List.mem_append.mp h with h | h
    · exact .inl (List.mem_append_left _ h)
    · obtain ⟨_, hrow, rfl⟩ := List.mem_map.mp h
      obtain ⟨k, hk, rfl⟩ := List.mem_map.mp hrow
      by_cases hid : k.id = m.id <;> simp [hid, hk]

theorem nodes_replaceNode (hs : s.Keyed) {n : Node} (hn : n ∈ s.nodes) (now : Instant)
    (p : Body.Patch String) :
    (s.replaceNode (Nodes.applyPatch now p n)).nodes =
      s.nodes.map fun k => if k.id = n.id then Nodes.applyPatch now p n else k := by
  have hother : ∀ k ∈ s.nodes, k.id = n.id → k = n := fun k hk => hs.eq_of_id hk hn
  have hid := Nodes.id_applyPatch now p n
  cases n with
  | file f =>
    have hmetas : ∀ m ∈ s.metas, m.id ≠ f.id := by
      intro m hm h
      cases hother (.metaNode m) (mem_nodes_metaNode.mpr hm) h
    simp only [Nodes.applyPatch, Node.id] at hid ⊢
    simp only [nodes, replaceNode, List.map_append, List.map_map, hid]
    refine congrArg₂ _ (List.map_congr_left fun g _ => ?_) (List.map_congr_left fun m hm => ?_)
    · by_cases hg : g.id = f.id <;> simp [hg]
    · simp [hmetas m hm]
  | metaNode m =>
    have hfiles : ∀ f ∈ s.files, f.id ≠ m.id := by
      intro f hf h
      cases hother (.file f) (mem_nodes_file.mpr hf) h
    simp only [Nodes.applyPatch, Node.id] at hid ⊢
    simp only [nodes, replaceNode, List.map_append, List.map_map, hid]
    refine congrArg₂ _ (List.map_congr_left fun f hf => ?_) (List.map_congr_left fun k _ => ?_)
    · simp [hfiles f hf]
    · by_cases hk : k.id = m.id <;> simp [hk]

end Store
end FileShare

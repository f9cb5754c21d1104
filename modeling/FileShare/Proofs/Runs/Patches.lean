import FileShare.Proofs.MergedPatches
import FileShare.Proofs.Runs.Creation

/-! # Patches

A patch writes the fields that it holds and no others, each in the form that a new node would have
been given. What it does to a field depends on that field alone. So two patches do what one does
that holds the fields of both, the later before the earlier.
-/
namespace FileShare

variable {c : Call} {s t : Store} {username : String}

/-! ## Patches that are written -/

section Written
variable {id body : Json}

theorem Nodes.update_eq_ok {limits : Settings} {now : Instant} (hs : s.Keyed)
    (hbody : Accounts.isEmptyObject body = false) :
    update limits now username id body s = .ok t ↔
      ∃ n ∈ s.nodes, ∃ p, Identifier.parse (some "node_id") id = .ok n.id ∧ s.hasUser username ∧
        n.EditableBy username ∧ Body.checkPatch limits s n.kind body = .ok p.raw ∧
        s.replaceNode (applyPatch now p n) = t := by
  constructor
  · intro h
    rcases update_cases h with ⟨hempty, _⟩ | ⟨_, n, _, p, hparse, huser, hfound, hpatch, rfl⟩
    · rw [hbody] at hempty
      cases hempty
    · obtain ⟨hn, rfl, hmay⟩ := Query.editable_of_fetch hs hfound List.mem_cons_self
      exact ⟨n, hn, p, hparse, huser, hmay, hpatch, rfl⟩
  · rintro ⟨n, hn, p, hparse, huser, hmay, hpatch, rfl⟩
    rw [update_eq hs hn huser hparse hbody, if_pos hmay, hpatch, Outcome.ok_bind,
      Body.Patch.encode_eq_ok.mpr rfl]
    rfl

theorem Call.updateNode_eq_ok (asked : c.operation = .updateNode username id body)
    {reply : Reply} :
    c.result s = .ok reply ∧ c.after s = t ↔
      reply = .done ∧ Nodes.update c.limits c.now username id body s = .ok t := by
  simp only [result, after, run, asked, Operation.run]
  cases hupdate : Nodes.update c.limits c.now username id body s with
  | error e => simp [Operation.writing]
  | ok written => simp [Operation.writing, eq_comm]

end Written

/-! ## Derived values -/

namespace Node.Derived
variable {n : Node} (h : n.Derived)
include h

theorem applyPatch (now : Instant) (p : Body.Patch String) :
    (Nodes.applyPatch now p n).Derived := by
  cases n with
  | file f =>
    obtain ⟨hname, hsize⟩ := h
    rw [Nodes.applyPatch, Nodes.applyToFile_eq]
    refine ⟨Nodes.lowerName_patched p.name hname, ?_⟩
    cases p.text with
    | none => exact hsize
    | some text => rfl
  | metaNode m =>
    rw [Nodes.applyPatch, Nodes.applyToMeta_eq]
    exact Nodes.lowerName_patched p.name h

theorem withoutGrants (username : String) : (n.withoutGrants username).Derived := by
  cases n <;> exact h

theorem withoutContents (ids : List String) : (n.withoutContents ids).Derived := by
  cases n <;> exact h

end Node.Derived

/-- Whatever the settings are, derived values are those of the fields that they derive from. -/
theorem Reachable.derived {allowed : Call → Store → Prop} (h : Reachable allowed s) :
    ∀ n ∈ s.nodes, n.Derived := by
  refine h.invariant (P := fun s => ∀ n ∈ s.nodes, n.Derived)
    (fun _ hn => absurd hn List.not_mem_nil) fun c _ _ _ heffect hs => ?_
  exact heffect.forall_nodes (fun _ _ _ _ => Nodes.derived_ofBody _ _ _ _)
    (fun _ p _ hn => hn.applyPatch c.now p) (fun _ username hn => hn.withoutGrants username)
    (fun _ ids hn => hn.withoutContents ids) hs

/-! ## Present and absent fields -/

def Node.patchFields : Node → List RawText
  | file _ => Body.filePatchFields
  | metaNode _ => Body.metaPatchFields

/-- The second node is what a patch at the given time makes of the first. -/
structure Node.Patched (now : Instant) (body : Json.Object) (n n' : Node) : Prop where
  id : n'.id = n.id
  kind : n'.kind = n.kind
  created : Entries.get? n'.publicFields "createdAt" = Entries.get? n.publicFields "createdAt"
  known : ∀ field ∈ Entries.names body, field ∈ n.patchFields
  /-- A field that the body holds shows what it would show on a new node, be it null or empty; a
  field that the body does not hold shows what it showed. -/
  fields : ∀ field : String, .text field ∈ n.patchFields → Entries.get? n'.publicFields field =
    ((Entries.get? body field).map (Body.normal field)).or (Entries.get? n.publicFields field)
  derived : n'.Derived
  /-- A file was modified at the time of the call. Directories and symlinks have no such time. -/
  modified : Entries.get? n'.publicFields "modifiedAt" =
    if n.kind = fileKind then some (.int now.milliseconds) else none

/-- What a field shows is the normal form of the value in the body if there is one, and what it
showed before if there is none. -/
theorem Fields.shown_of_ifPresent {α β γ : Type} {body : Json.Object} {field : String}
    {check : Json → Except Failure γ} {o : Option α} {spell : α → γ}
    (h : ifPresent body field check = .ok (o.map spell)) (stored : α → β) (shown : β → Json)
    (hnormal : ∀ {v a}, check v = .ok (spell a) → Body.normal field v = shown (stored a))
    (old : β) :
    some (shown ((o.map stored).getD old)) =
      ((Entries.get? body field).map (Body.normal field)).or (some (shown old)) := by
  unfold ifPresent at h
  cases hvalue : Entries.get? body field with
  | none =>
    rw [hvalue] at h
    cases o with
    | none => rfl
    | some a => cases h
  | some v =>
    rw [hvalue] at h
    obtain ⟨b, hb, hspelled⟩ := Outcome.map_eq_ok.mp h
    obtain ⟨a, rfl, rfl⟩ := Option.map_eq_some_iff.mp hspelled.symm
    exact congrArg some (hnormal hb).symm

namespace Nodes
variable {limits : Settings} {given : Json.Object} {p : Body.Patch String}

theorem patched_applyToFile (now : Instant) {f : FileNode}
    (h : Body.AcceptsFilePatch limits s given p) (hf : (Node.file f).Derived) :
    Node.Patched now given (.file f) (.file (applyToFile now p f)) where
  id := id_applyPatch now p (.file f)
  kind := rfl
  created := by rw [applyToFile_eq]; rfl
  known := Fields.checkKnown_eq_ok.mp h.known
  fields := by
    have hname := Fields.shown_of_ifPresent h.name id .str Body.normal_of_checkName f.name
    have htext := Fields.shown_of_ifPresent (Fields.spelled_id h.text) id .str
      Body.normal_of_checkText f.text
    have htags := Fields.shown_of_ifPresent h.tags _ .strings Body.normal_of_checkTags f.tags
    have hlock := Fields.shown_of_ifPresent (Fields.spelled_id h.lock) id id
      Body.normal_of_checkLock f.lock
    have hgrants := Fields.shown_of_ifPresent (Fields.spelled_id h.permissions) sortGrants
      Node.grantsToJson Body.normal_of_checkPermissions f.permissions
    have howner := Fields.shown_of_ifPresent (Fields.spelled_id h.owner) id .str
      Body.normal_of_checkOwner f.owner
    simp only [Option.map_id_fun] at hname htext hlock howner
    rw [applyToFile_eq]
    simp only [Node.patchFields, Body.filePatchFields, List.mem_cons, List.not_mem_nil, or_false,
      RawText.text.injEq, forall_eq_or_imp, forall_eq]
    exact ⟨hname, htext, htags, hlock, hgrants, howner⟩
  derived := hf.applyPatch now p
  modified := by rw [applyToFile_eq]; rfl

theorem patched_applyToMeta (now : Instant) {m : MetaNode} (hkind : m.kind ≠ fileKind)
    (h : Body.AcceptsMetaPatch limits s m.kind given p) (hm : (Node.metaNode m).Derived) :
    Node.Patched now given (.metaNode m) (.metaNode (applyToMeta p m)) where
  id := id_applyPatch now p (.metaNode m)
  kind := kind_applyPatch now p (.metaNode m)
  created := by rw [applyToMeta_eq]; rfl
  known := Fields.checkKnown_eq_ok.mp h.known
  fields := by
    have hname := Fields.shown_of_ifPresent h.name id .str Body.normal_of_checkName m.name
    have hcontents := Fields.shown_of_ifPresent (Fields.spelled_id h.contents) id .strings
      Body.normal_of_checkContents m.contents
    have hgrants := Fields.shown_of_ifPresent (Fields.spelled_id h.permissions) sortGrants
      Node.grantsToJson Body.normal_of_checkPermissions m.permissions
    have howner := Fields.shown_of_ifPresent (Fields.spelled_id h.owner) id .str
      Body.normal_of_checkOwner m.owner
    simp only [Option.map_id_fun] at hname hcontents howner
    rw [applyToMeta_eq]
    simp only [Node.patchFields, Body.metaPatchFields, List.mem_cons, List.not_mem_nil, or_false,
      RawText.text.injEq, forall_eq_or_imp, forall_eq]
    exact ⟨hname, hcontents, hgrants, howner⟩
  derived := hm.applyPatch now p
  modified := (if_neg hkind).symm

theorem patched_applyPatch (now : Instant) {n : Node} {body : Json}
    (hkinds : ∀ m ∈ s.metas, m.kind ≠ fileKind) (hn : n ∈ s.nodes) (hderived : n.Derived)
    (h : Body.checkPatch limits s n.kind body = .ok p.raw) :
    ∃ given, body = .obj given ∧ Node.Patched now given n (applyPatch now p n) := by
  cases body with
  | obj given =>
    refine ⟨given, rfl, ?_⟩
    cases n with
    | file f => exact patched_applyToFile now (Body.checkFilePatch_accepts h) hderived
    | metaNode m =>
      have hkind := hkinds m (Store.mem_nodes_metaNode.mp hn)
      rw [Node.kind, Body.checkPatch, if_neg hkind] at h
      exact patched_applyToMeta now hkind (Body.checkMetaPatch_accepts h) hderived
  | _ => simp [Body.checkPatch] at h

end Nodes

/-- In every run, as long as identifiers are distinct, a patch that is answered and that is not
empty writes the fields that it holds into the node that it names, and touches no other node and no
account. -/
theorem patches_write_their_fields {allowed : Call → Store → Prop} {id body : Json}
    (h : Reachable allowed s) (hids : (s.nodes.map Node.id).Nodup)
    (asked : c.operation = .updateNode username id body)
    (hbody : Accounts.isEmptyObject body = false) {reply : Reply} (hok : c.result s = .ok reply) :
    ∃ (given : Json.Object) (n n' : Node), body = .obj given ∧ n ∈ s.nodes ∧
      Identifier.parse (some "node_id") id = .ok n.id ∧ n.Patched c.now given n' ∧
      (c.after s).users = s.users ∧
      (c.after s).nodes = s.nodes.map fun k => if k.id = n.id then n' else k := by
  have hs : s.Keyed := ⟨hids, h.kinds⟩
  obtain ⟨_, hupdate⟩ := (Call.updateNode_eq_ok asked).mp ⟨hok, rfl⟩
  obtain ⟨n, hn, p, hparse, _, _, hpatch, hafter⟩ := (Nodes.update_eq_ok hs hbody).mp hupdate
  obtain ⟨given, rfl, hpatched⟩ :=
    Nodes.patched_applyPatch c.now h.kinds hn (h.derived n hn) hpatch
  refine ⟨given, n, _, rfl, hn, hparse, hpatched, ?_, ?_⟩
  · rw [← hafter, Store.users_replaceNode]
  · rw [← hafter, Store.nodes_replaceNode hs hn]

namespace Sample

/-- Empties the text of a file, writes its lock as it is, and names it anew, a second later. -/
def revise : Call :=
  { call 5 (.updateNode "anna" (.str "5F5E10000000000007000003") (.obj [("text", .str ""),
      ("lock", .null), ("name", .str "Score")])) with now := ⟨1600000001000000⟩ }

end Sample

/-- The file keeps its tags and its grants, and its text is empty. -/
theorem patches_write_their_fields_sample :
    Reachable Call.Fresh Sample.shelf ∧ (Sample.shelf.nodes.map Node.id).Nodup ∧
    Sample.revise.result Sample.shelf = .ok .done ∧
    ∃ (given : Json.Object) (n n' : Node), n ∈ Sample.shelf.nodes ∧
      Identifier.parse (some "node_id") (.str "5F5E10000000000007000003") = .ok n.id ∧
      n.Patched Sample.revise.now given n' ∧
      (Sample.revise.after Sample.shelf).users = Sample.members ∧
      (Sample.revise.after Sample.shelf).nodes =
        Sample.shelf.nodes.map fun k => if k.id = n.id then n' else k := by
  have hids : (Sample.shelf.nodes.map Node.id).Nodup := by decide
  have hdone : Sample.revise.result Sample.shelf = .ok .done := rfl
  obtain ⟨given, n, n', _, hpatched⟩ :=
    patches_write_their_fields Sample.shelf_reachable hids rfl rfl hdone
  exact ⟨Sample.shelf_reachable, hids, hdone, given, n, n', hpatched⟩

/-! ## One patch after another -/

namespace Nodes
variable (now before : Instant) (p q : Body.Patch String)

theorem applyPatch_overriddenBy (n : Node) :
    applyPatch now (p.overriddenBy q) n = applyPatch now q (applyPatch before p n) := by
  cases n with
  | file f =>
    simp only [applyPatch, applyToFile_eq, Body.Patch.overriddenBy, Option.map_or, Option.getD_or]
  | metaNode m =>
    simp only [applyPatch, applyToMeta_eq, Body.Patch.overriddenBy, Option.map_or, Option.getD_or]

end Nodes

namespace Store
variable (s) (now before : Instant) (p q : Body.Patch String) (n : Node)

theorem touched_applyPatch (time : Int) :
    s.touched time (Nodes.applyPatch now p n) = s.touched time n := by
  have hid := Nodes.id_applyPatch now p n
  cases n with
  | file f =>
    simp only [Nodes.applyPatch, Node.id] at hid
    simp only [Nodes.applyPatch, touched, hid]
  | metaNode m => rfl

theorem replaceNode_touched :
    (s.replaceNode (Nodes.applyPatch before p n)).touched now.milliseconds n =
      s.replaceNode (Nodes.applyPatch now p n) := by
  cases n with
  | file f =>
    simp only [touched, replaceNode, Nodes.applyPatch, Nodes.applyToFile_eq, List.map_map, mk.injEq,
      and_true, true_and]
    refine List.map_congr_left fun g _ => ?_
    by_cases hid : g.id = f.id <;> simp [hid]
  | metaNode m => rfl

theorem replaceNode_twice :
    (s.replaceNode (Nodes.applyPatch before p n)).replaceNode
        (Nodes.applyPatch now q (Nodes.applyPatch before p n)) =
      s.replaceNode (Nodes.applyPatch now q (Nodes.applyPatch before p n)) := by
  have hid := (Nodes.id_applyPatch now q (Nodes.applyPatch before p n)).symm
  cases n with
  | file f =>
    simp only [Nodes.applyPatch, Node.id] at hid
    exact congrArg (fun files => { s with files }) (map_replaced_twice s.files hid)
  | metaNode m =>
    simp only [Nodes.applyPatch, Node.id] at hid
    exact congrArg (fun metas => { s with metas }) (map_replaced_twice s.metas hid)

variable {s}

theorem knowsAlike_replaceNode (n : Node) : (s.replaceNode n).KnowsAlike s where
  users := funext fun _ => by rw [hasUser, hasUser, userNamed?, userNamed?, users_replaceNode]
  nodes := funext fun _ => by rw [Bool.eq_iff_iff, hasNode_iff_mem, hasNode_iff_mem,
    map_id_replaceNode]

end Store

theorem Accounts.isEmptyObject_obj {body : Json.Object} :
    isEmptyObject (.obj body) = false ↔ body ≠ [] := by
  cases body <;> simp [isEmptyObject]

/-- In every run, as long as identifiers are distinct, two patches that a user has written one after
the other can be written as one, in which the fields of the later patch stand over those of the
earlier one. The store is then the same but for the time of a file's change. -/
theorem patches_compose {allowed : Call → Store → Prop} {c₁ c₂ : Call} {id : Json}
    {earlier later : Json.Object} (h : Reachable allowed s) (hids : (s.nodes.map Node.id).Nodup)
    (asked₁ : c₁.operation = .updateNode username id (.obj earlier))
    (asked₂ : c₂.operation = .updateNode username id (.obj later))
    (asked : c.operation = .updateNode username id (.obj (Entries.overriddenBy earlier later)))
    (hlimits₁ : c₁.limits = c.limits) (hlimits₂ : c₂.limits = c.limits)
    (hearlier : earlier ≠ []) (hlater : later ≠ []) {reply₁ reply₂ : Reply}
    (hok₁ : c₁.result s = .ok reply₁) (hok₂ : c₂.result (c₁.after s) = .ok reply₂) :
    ∃ n ∈ s.nodes, Identifier.parse (some "node_id") id = .ok n.id ∧ c.result s = .ok .done ∧
      c.after s = (c₂.after (c₁.after s)).touched c.now.milliseconds n := by
  have hs : s.Keyed := ⟨hids, h.kinds⟩
  obtain ⟨_, hupdate₁⟩ := (Call.updateNode_eq_ok asked₁).mp ⟨hok₁, rfl⟩
  obtain ⟨_, hupdate₂⟩ := (Call.updateNode_eq_ok asked₂).mp ⟨hok₂, rfl⟩
  obtain ⟨n, hn, p, hparse, huser, hmay, hpatch₁, hafter₁⟩ :=
    (Nodes.update_eq_ok hs (Accounts.isEmptyObject_obj.mpr hearlier)).mp hupdate₁
  have hs₁ : (c₁.after s).Keyed := by
    refine ⟨?_, (c₁.effect s).kinds h.kinds⟩
    rwa [← hafter₁, Store.map_id_replaceNode]
  obtain ⟨n₁, hn₁, q, hparse₁, _, _, hpatch₂, hafter₂⟩ :=
    (Nodes.update_eq_ok hs₁ (Accounts.isEmptyObject_obj.mpr hlater)).mp hupdate₂
  -- the second patch finds what the first one left
  have hpatched : Nodes.applyPatch c₁.now p n ∈ (c₁.after s).nodes := by
    rw [← hafter₁, Store.nodes_replaceNode hs hn]
    exact List.mem_map.mpr ⟨n, hn, if_pos rfl⟩
  have hid : n₁.id = n.id := Except.ok.inj (hparse₁.symm.trans hparse)
  cases hs₁.eq_of_id hn₁ hpatched (by rw [hid, Nodes.id_applyPatch])
  rw [← hafter₁, Body.checkPatch_congr (Store.knowsAlike_replaceNode _), Nodes.kind_applyPatch,
    hlimits₂] at hpatch₂
  rw [hlimits₁] at hpatch₁
  have hpatch := Body.checkPatch_overridden hpatch₁ hpatch₂
  have hbody := Entries.overriddenBy_ne_nil hearlier later
  obtain ⟨hdone, hafter⟩ := (Call.updateNode_eq_ok asked).mpr ⟨rfl,
    (Nodes.update_eq_ok hs (Accounts.isEmptyObject_obj.mpr hbody)).mpr
      ⟨n, hn, _, hparse, huser, hmay, hpatch, rfl⟩⟩
  refine ⟨n, hn, hparse, hdone, ?_⟩
  calc c.after s
    _ = s.replaceNode (Nodes.applyPatch c.now q (Nodes.applyPatch c₁.now p n)) := by
      rw [hafter, Nodes.applyPatch_overriddenBy c.now c₁.now]
    _ = (c₁.after s).replaceNode (Nodes.applyPatch c.now q (Nodes.applyPatch c₁.now p n)) := by
      rw [← hafter₁, Store.replaceNode_twice]
    _ = (c₂.after (c₁.after s)).touched c.now.milliseconds n := by
      rw [← hafter₂, ← Store.touched_applyPatch _ c₁.now p n, Store.replaceNode_touched]

namespace Sample

/-- Gives a file away and keeps the right to edit it. -/
def handOver : Json.Object :=
  [("owner", .str "bert"), ("permissions", .obj [("anna", .str "edit")])]

/-- Writes a last text and gives the right to edit the file back. -/
def retire : Json.Object := [("permissions", .obj []), ("text", .str "la")]

def patch (counter : Nat) (body : Json.Object) : Call :=
  call counter (.updateNode "anna" (.str track.id) (.obj body))

end Sample

/-- The user may no longer edit the file after both patches, and can still write them as one. -/
theorem patches_compose_sample :
    Reachable Call.Fresh Sample.shelf ∧ (Sample.shelf.nodes.map Node.id).Nodup ∧
    (Sample.patch 5 Sample.handOver).result Sample.shelf = .ok .done ∧
    (Sample.patch 6 Sample.retire).result
      ((Sample.patch 5 Sample.handOver).after Sample.shelf) = .ok .done ∧
    ∃ n ∈ Sample.shelf.nodes,
      Identifier.parse (some "node_id") (.str Sample.track.id) = .ok n.id ∧
      (Sample.patch 7 (Entries.overriddenBy Sample.handOver Sample.retire)).result Sample.shelf =
        .ok .done ∧
      (Sample.patch 7 (Entries.overriddenBy Sample.handOver Sample.retire)).after Sample.shelf =
        ((Sample.patch 6 Sample.retire).after
          ((Sample.patch 5 Sample.handOver).after Sample.shelf)).touched 1600000000000 n := by
  have hids : (Sample.shelf.nodes.map Node.id).Nodup := by decide
  have hfirst : (Sample.patch 5 Sample.handOver).result Sample.shelf = .ok .done := rfl
  have hsecond : (Sample.patch 6 Sample.retire).result
      ((Sample.patch 5 Sample.handOver).after Sample.shelf) = .ok .done := rfl
  exact ⟨Sample.shelf_reachable, hids, hfirst, hsecond,
    patches_compose Sample.shelf_reachable hids rfl rfl rfl rfl rfl (by decide) (by decide) hfirst
      hsecond⟩

end FileShare

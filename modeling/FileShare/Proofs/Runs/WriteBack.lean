import FileShare.Proofs.Runs.Authorization
import FileShare.Proofs.Runs.Contents
import FileShare.Proofs.Runs.Grants
import FileShare.Proofs.Runs.NodeForms

/-! # Writing back what is read

A client that reads a node may send the fields that it can edit back as they are. The checks accept
what the store holds, and writing it changes nothing but the time of the change. The one exception
are tags: their length is limited before they are put into lower case, and lower case can be longer.
-/
namespace FileShare

namespace Node

/-- The fields that a patch of the node may hold besides its owner. -/
def editableFields : Node → List String
  | file _ => ["name", "text", "tags", "lock", "permissions"]
  | metaNode _ => ["name", "contents", "permissions"]

/-- The editable fields of a node as they are shown. -/
def ownFields (n : Node) : Json.Object :=
  n.publicFields.filter fun e => e.1 ∈ n.editableFields.map .text

theorem ownFields_file (f : FileNode) : (file f).ownFields = [
    (.text "name", .str f.name),
    (.text "text", .str f.text),
    (.text "tags", .strings f.tags),
    (.text "lock", f.lock),
    (.text "permissions", grantsToJson f.permissions)] := by
  simp [ownFields, publicFields, editableFields]

theorem ownFields_metaNode (m : MetaNode) : (metaNode m).ownFields = [
    (.text "name", .str m.name),
    (.text "contents", .strings m.contents),
    (.text "permissions", grantsToJson m.permissions)] := by
  simp [ownFields, publicFields, editableFields]

end Node

/-- The store after a change at the given time that changes nothing else. Directories and symlinks
have no time of change. -/
def Store.touched (s : Store) (time : Int) : Node → Store
  | .file f =>
    { s with
      files := s.files.map fun g => if g.id = f.id then { g with modifiedAt := time } else g }
  | .metaNode _ => s

variable {limits : Settings} {s : Store}

/-! ## Stored fields pass their checks -/

namespace Body

theorem checkName_stored {name : String} (h : IsName limits name) :
    checkName limits (.str name) = .ok (.text name) := boundedText_eq_ok.mpr ⟨rfl, h⟩

theorem checkPermissions_stored {kind : String} {grants : Entries String}
    (hsound : SoundGrants s kind grants) (hlist : IsGrantList limits grants) :
    checkPermissions limits s (kind = fileKind) (Node.grantsToJson grants) = .ok grants := by
  refine checkPermissions_eq_ok.mpr ⟨_, rfl, ?_, ?_, hsound.known⟩
  · refine List.forall₂_map_left_iff.mpr (List.forall₂_same.mpr fun g hg => ?_)
    refine checkGrant_eq_ok.mpr ⟨g.2, rfl, ?_, ?_, rfl⟩
    · simpa [Matcher.permissionLevels] using hsound.levels g hg
    · intro hpublic
      simpa using hsound.everyone g hg (RawText.text.inj hpublic)
  · rw [List.length_map]
    exact hlist.count

theorem checkContents_stored {kind : String} {ids : List String}
    (hsound : SoundContents s kind ids) (hids : IsContents limits kind ids) :
    checkContents limits s kind (.strings ids) = .ok ids := by
  refine checkContents_eq_ok.mpr
    ⟨_, ids, rfl, ?_, ?_, hsound.exist, eraseDups_of_nodup hsound.distinct⟩
  · rw [List.length_map]
    rcases hids with ⟨rfl, hcount⟩ | hkind
    · exact hcount
    · rw [mostContents, if_pos hkind]
      exact_mod_cast hsound.single hkind
  · exact List.forall₂_map_left_iff.mpr
      (List.forall₂_same.mpr fun id hid => (hsound.normal id hid).parse_eq _)

theorem boundedText_fails (field : String) (least most : Int) (v : Json) :
    Outcome.FailsOnly (boundedText field least most v)
      (· = .rejected (.badLength field (.within least most) .text)) := by
  unfold boundedText
  split
  · split <;> simp
  · simp

theorem strings_injective : Function.Injective Json.strings := fun _ _ h =>
  List.map_injective_iff.mpr (fun _ _ => Json.str.inj) (Json.arr.inj h)

/-- Stored tags pass their check unless lower case has made one of them too long. -/
theorem checkTags_stored {tags : List String} (h : IsTagList limits tags) :
    checkTags limits (.strings tags) =
      if ∀ tag ∈ tags, (tag.length : Int) ≤ limits.maxTagLength then .ok (tags.map .text)
      else reject (.badLength "tags" (.within 1 limits.maxTagLength) .text) := by
  have hfew : ¬ limits.maxTags < ((tags.map Json.str).length : Int) := by
    rw [List.length_map]
    exact Int.not_lt.mpr h.count
  split
  · rename_i hshort
    refine checkTags_eq_ok.mpr
      ⟨Json.strings_eq tags, ?_, List.forall_mem_map.mpr fun tag htag => ?_⟩
    · rw [List.length_map]
      exact h.count
    · have hlength := String.length_eq_zero_iff.not.mpr (h.nonempty tag htag)
      have hmost := hshort tag htag
      rw [RawText.length]
      omega
  · rename_i hlong
    have hfails : Outcome.FailsOnly (checkTags limits (.strings tags))
        (· = .rejected (.badLength "tags" (.within 1 limits.maxTagLength) .text)) := by
      simp only [checkTags, Json.strings, if_neg hfew]
      exact Outcome.FailsOnly.mapM fun v _ => boundedText_fails _ _ _ v
    cases hresult : checkTags limits (.strings tags) with
    | ok written =>
      obtain ⟨hsame, _, hshort⟩ := checkTags_eq_ok.mp hresult
      rw [Json.strings_eq, Json.arr.injEq] at hsame
      obtain rfl := List.map_injective_iff.mpr (fun _ _ => Json.ofText_inj.mp) hsame
      exact absurd (fun tag htag => (hshort _ (List.mem_map_of_mem htag)).2) hlong
    | error e => exact congrArg Except.error (hfails e hresult)

end Body

/-! ## Stored fields are written as they are -/

theorem IsTagList.normalize_eq {tags : List String} (h : IsTagList limits tags) :
    sortTexts (Matcher.normalizeTags tags) = tags := by
  have hlower : tags.map Text.lower = tags := by
    conv_rhs => rw [← List.map_id tags]
    exact List.map_congr_left h.lower
  rw [Matcher.normalizeTags, hlower, eraseDups_of_nodup h.distinct]
  exact sortBy_key_eq_self id h.ordered

theorem IsGrantList.sort_eq {grants : Entries String} (h : IsGrantList limits grants) :
    sortGrants grants = grants := sortBy_key_eq_self Prod.fst h.ordered

namespace FileNode
variable {f : FileNode}

/-- The patch that writes the fields of a file back. -/
def ownPatch (f : FileNode) : Body.Patch String where
  name := f.name
  text := f.text
  tags := f.tags
  lock := f.lock
  permissions := f.permissions

theorem WellFormed.applyToFile_ownPatch (hf : f.WellFormed limits) (now : Instant) :
    Nodes.applyToFile now f.ownPatch f = { f with modifiedAt := now.milliseconds } := by
  rw [Nodes.applyToFile_eq]
  simp [ownPatch, hf.lowerName, hf.size, hf.tags.normalize_eq, hf.permissions.sort_eq]

end FileNode

namespace MetaNode
variable {m : MetaNode}

def ownPatch (m : MetaNode) : Body.Patch String where
  name := m.name
  contents := m.contents
  permissions := m.permissions

theorem WellFormed.applyToMeta_ownPatch (hm : m.WellFormed limits) :
    Nodes.applyToMeta m.ownPatch m = m := by
  rw [Nodes.applyToMeta_eq]
  simp [ownPatch, ← hm.lowerName, hm.permissions.sort_eq]

end MetaNode

namespace Body

theorem checkPatch_ownFields_file {f : FileNode} (hf : f.WellFormed limits)
    (hgrants : SoundGrants s fileKind f.permissions) :
    checkPatch limits s fileKind (.obj (Node.file f).ownFields) =
      if ∀ tag ∈ f.tags, (tag.length : Int) ≤ limits.maxTagLength then .ok f.ownPatch.raw
      else reject (.badLength "tags" (.within 1 limits.maxTagLength) .text) := by
  have hname := checkName_stored hf.name
  have hpermissions : checkPermissions limits s true (Node.grantsToJson f.permissions) =
      .ok f.permissions := by simpa using checkPermissions_stored hgrants hf.permissions
  have htext : checkText limits (.str f.text) = .ok f.text :=
    checkText_eq_ok.mpr ⟨rfl, hf.size ▸ hf.text⟩
  have htags := checkTags_stored hf.tags
  have hlock : checkLock limits f.lock = .ok f.lock := checkLock_eq_ok.mpr ⟨rfl, hf.lock⟩
  have hknown : Fields.checkKnown filePatchFields (Node.file f).ownFields = .ok () := by
    rw [Node.ownFields_file]
    rfl
  rw [checkPatch, if_pos rfl, checkFilePatch, hknown, Node.ownFields_file]
  by_cases hshort : ∀ tag ∈ f.tags, (tag.length : Int) ≤ limits.maxTagLength
  · rw [if_pos hshort] at htags ⊢
    simp [Fields.ifPresent, Entries.get?, hname, hpermissions, htext, htags, hlock,
      FileNode.ownPatch, Patch.raw]
  · rw [if_neg hshort] at htags ⊢
    simp [Fields.ifPresent, Entries.get?, hname, hpermissions, htext, htags, reject]

theorem checkPatch_ownFields_metaNode {m : MetaNode} (hm : m.WellFormed limits)
    (hgrants : SoundGrants s m.kind m.permissions) (hcontents : SoundContents s m.kind m.contents) :
    checkPatch limits s m.kind (.obj (Node.metaNode m).ownFields) = .ok m.ownPatch.raw := by
  have hname := checkName_stored hm.name
  have hpermissions : checkPermissions limits s false (Node.grantsToJson m.permissions) =
      .ok m.permissions := by
    simpa [hm.kind_ne] using checkPermissions_stored hgrants hm.permissions
  have hwritten := checkContents_stored hcontents hm.contents
  have hknown : Fields.checkKnown metaPatchFields (Node.metaNode m).ownFields = .ok () := by
    rw [Node.ownFields_metaNode]
    rfl
  rw [checkPatch, if_neg hm.kind_ne, checkMetaPatch, hknown, Node.ownFields_metaNode]
  simp [Fields.ifPresent, Entries.get?, hname, hpermissions, hwritten, MetaNode.ownPatch, Patch.raw]

end Body

/-! ## The store afterwards -/

namespace Store.Keyed
variable (hs : s.Keyed)
include hs

theorem replaceNode_file {f : FileNode} (hf : f ∈ s.files) (time : Int) :
    s.replaceNode (.file { f with modifiedAt := time }) = s.touched time (.file f) := by
  simp only [Store.replaceNode, Store.touched, Store.mk.injEq, true_and, and_true]
  refine List.map_congr_left fun g hg => ?_
  split
  · rename_i hid
    cases List.inj_on_of_nodup_map hs.tables.files hg hf hid
    rfl
  · rfl

theorem replaceNode_metaNode {m : MetaNode} (hm : m ∈ s.metas) :
    s.replaceNode (.metaNode m) = s := by
  have hsame : ∀ k ∈ s.metas, (if k.id = m.id then m else k) = k := by
    intro k hk
    split
    · rename_i hid
      exact (List.inj_on_of_nodup_map hs.tables.metas hk hm hid).symm
    · rfl
  rw [Store.replaceNode, List.map_congr_left hsame, List.map_id']

end Store.Keyed

theorem Nodes.patch_ownFields (hs : s.Keyed) {n : Node} (hn : n ∈ s.nodes)
    (hform : n.WellFormed limits) (hgrants : SoundGrants s n.kind n.permissions)
    (hcontents : SoundContents s n.kind n.contents) (now : Instant) :
    (do
      let patch ← (← Body.checkPatch limits s n.kind (.obj n.ownFields)).encode
      return s.replaceNode (applyPatch now patch n)) =
      if ∀ tag ∈ Query.tagsOf n, (tag.length : Int) ≤ limits.maxTagLength then
        .ok (s.touched now.milliseconds n)
      else reject (.badLength "tags" (.within 1 limits.maxTagLength) .text) := by
  cases n with
  | file f =>
    have hf : f.WellFormed limits := hform
    split
    · rename_i hshort
      have hpatch := (Body.checkPatch_ownFields_file hf hgrants).trans (if_pos hshort)
      simp only [Node.kind, hpatch, Outcome.ok_bind, Body.Patch.encode_eq_ok.mpr rfl, applyPatch,
        hf.applyToFile_ownPatch, hs.replaceNode_file (Store.mem_nodes_file.mp hn)]
      rfl
    · rename_i hlong
      have hpatch := (Body.checkPatch_ownFields_file hf hgrants).trans (if_neg hlong)
      simp only [Node.kind, hpatch]
      rfl
  | metaNode m =>
    have hm : m.WellFormed limits := hform
    simp only [Node.kind, Body.checkPatch_ownFields_metaNode hm hgrants hcontents,
      Outcome.ok_bind, Body.Patch.encode_eq_ok.mpr rfl, applyPatch, hm.applyToMeta_ownPatch,
      hs.replaceNode_metaNode (Store.mem_nodes_metaNode.mp hn)]
    rfl

/-! ## The round trip -/

/-- In every run under one group of settings and with distinct identifiers, a user who may edit a
node may send its own editable fields back: nothing changes but the time of a file's change. Only
tags that lower case has made longer than tags may be are refused, and then nothing changes. -/
theorem own_fields_written_back {c : Call} {n : Node} {username : String}
    (h : Reachable (fun c _ => c.limits = limits) s) (hids : (s.nodes.map Node.id).Nodup)
    (hn : n ∈ s.nodes) (huser : s.hasUser username) (hmay : n.EditableBy username)
    (hfixed : c.limits = limits)
    (asked : c.operation = .updateNode username (.str n.id) (.obj n.ownFields)) :
    if ∀ tag ∈ Query.tagsOf n, (tag.length : Int) ≤ limits.maxTagLength then
      c.result s = .ok .done ∧ c.after s = s.touched c.now.milliseconds n
    else
      c.result s = reject (.badLength "tags" (.within 1 limits.maxTagLength) .text) ∧
        c.after s = s := by
  subst hfixed
  have hs : s.Keyed := ⟨hids, h.kinds⟩
  have hform := h.wellFormed (fun _ _ => id) n hn
  have hid := (h.normalIds n hn).parse_eq (some "node_id")
  have hbody : Accounts.isEmptyObject (.obj n.ownFields) = false := by
    cases n with
    | file f => rw [Node.ownFields_file]; rfl
    | metaNode m => rw [Node.ownFields_metaNode]; rfl
  have hupdate : Nodes.update c.limits c.now _ _ _ s = _ :=
    Nodes.update_eq hs hn huser hid hbody c.now
  rw [if_pos hmay, Nodes.patch_ownFields hs hn hform (h.grantsSound n hn) (h.sound n hn)] at hupdate
  simp only [Call.result, Call.after, Call.run, asked, Operation.run, hupdate]
  split
  · exact ⟨rfl, rfl⟩
  · exact ⟨rfl, rfl⟩

namespace Sample

def rewrite : Call :=
  call 5 (.updateNode "anna" (.str track.id) (.obj (Node.file track).ownFields))

/-- Nine letters that become eighteen characters. -/
def label : Call := call 5 (.createNode "anna" (.obj [("type", .str "file"), ("name", .str "Chart"),
  ("text", .str ""), ("tags", .arr [.str "İİİİİİİİİ"]), ("lock", .null), ("permissions", .obj [])]))

def chart : FileNode :=
  .ofFields "5f5e10000000000007000005" "anna" 1600000000000 1600000000000 "Chart" ""
    [Text.lower "İİİİİİİİİ"] .null []

def board : Store := { shelf with files := [track, chart] }

def relabel : Call :=
  call 6 (.updateNode "anna" (.str chart.id) (.obj (Node.file chart).ownFields))

end Sample

theorem own_fields_written_back_sample :
    Reachable (fun c _ => c.limits = Sample.limits) Sample.shelf ∧
      (Node.file Sample.track).EditableBy "anna" ∧
      Sample.rewrite.result Sample.shelf = .ok .done ∧
      Sample.rewrite.after Sample.shelf =
        Sample.shelf.touched Sample.rewrite.now.milliseconds (.file Sample.track) := by
  have hrun := Sample.shelf_kept.mono fun _ _ => And.left
  have hmay : (Node.file Sample.track).EditableBy "anna" := by decide
  have hback := own_fields_written_back (n := .file Sample.track) (c := Sample.rewrite) hrun
    (by decide) List.mem_cons_self (by decide) hmay rfl rfl
  rw [if_pos (by decide)] at hback
  exact ⟨hrun, hmay, hback⟩

/-- The tag was accepted when the file was made, and as it is read it is too long. -/
theorem own_tags_refused_sample :
    Reachable (fun c _ => c.limits = Sample.limits) Sample.board ∧
      (Sample.board.nodes.map Node.id).Nodup ∧ .file Sample.chart ∈ Sample.board.nodes ∧
      Sample.board.hasUser "anna" ∧ (Node.file Sample.chart).EditableBy "anna" ∧
      Sample.relabel.limits = Sample.limits ∧
      Sample.relabel.operation =
        .updateNode "anna" (.str Sample.chart.id) (.obj (Node.file Sample.chart).ownFields) ∧
      Sample.relabel.result Sample.board = reject (.badLength "tags" (.within 1 16) .text) := by
  refine ⟨?_, by decide, ?_, by decide, by decide, rfl, rfl, rfl⟩
  · exact .call (c := Sample.label) (Sample.shelf_kept.mono fun _ _ => And.left) rfl
  · exact Store.mem_nodes_file.mpr (List.mem_cons_of_mem _ List.mem_cons_self)

end FileShare

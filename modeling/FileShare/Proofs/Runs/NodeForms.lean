import FileShare.Proofs.AcceptedFields
import FileShare.Proofs.LowerCase
import FileShare.Proofs.Runs.Identity
import FileShare.Proofs.Sorting

/-! # The form of stored nodes

What a node derives from its other fields, what it keeps in normal form and what its settings bound
is set up when the node is made, and every patch sets it up again. A run under one group of settings
therefore holds well-formed nodes only.
-/
namespace FileShare

/-! ## Writes, field by field -/

namespace Nodes
variable (now : Instant) (p : Body.Patch String)

theorem applyToFile_eq (f : FileNode) :
    applyToFile now p f =
      { id := f.id
        owner := p.owner.getD f.owner
        createdAt := f.createdAt
        modifiedAt := now.milliseconds
        name := p.name.getD f.name
        lowerName := (p.name.map Text.lower).getD f.lowerName
        text := p.text.getD f.text
        size := (p.text.map String.utf8ByteSize).getD f.size
        tags := (p.tags.map fun tags => sortTexts (Matcher.normalizeTags tags)).getD f.tags
        lock := p.lock.getD f.lock
        permissions := (p.permissions.map sortGrants).getD f.permissions } := by
  obtain ⟨name, permissions, text, tags, lock, contents, owner⟩ := p
  cases name <;> cases permissions <;> cases text <;> cases tags <;> rfl

theorem applyToMeta_eq (m : MetaNode) :
    applyToMeta p m =
      { id := m.id
        kind := m.kind
        owner := p.owner.getD m.owner
        createdAt := m.createdAt
        name := p.name.getD m.name
        lowerName := (p.name.map Text.lower).getD m.lowerName
        contents := p.contents.getD m.contents
        permissions := (p.permissions.map sortGrants).getD m.permissions } := by
  obtain ⟨name, permissions, text, tags, lock, contents, owner⟩ := p
  cases name <;> cases permissions <;> rfl

end Nodes

/-! ## Fields in normal form -/

section Fields
variable (limits : Settings)

def IsName (name : String) : Prop :=
  1 ≤ (name.length : Int) ∧ (name.length : Int) ≤ limits.maxNameLength

/-- Tags as they are stored: lower-case texts in order, each once. -/
structure IsTagList (tags : List String) : Prop where
  count : (tags.length : Int) ≤ limits.maxTags
  distinct : tags.Nodup
  nonempty : ∀ tag ∈ tags, tag ≠ ""
  lower : ∀ tag ∈ tags, Text.lower tag = tag
  ordered : tags.Pairwise (· ≤ ·)

/-- Grants as they are stored, in the order of the grantees. -/
structure IsGrantList (grants : Entries String) : Prop where
  count : (grants.length : Int) ≤ limits.maxPermissions
  ordered : grants.Pairwise fun a b => a.1 ≤ b.1

/-- Contents of a directory or of a symlink. -/
def IsContents (kind : String) (ids : List String) : Prop :=
  kind = "directory" ∧ (ids.length : Int) ≤ limits.maxContents ∨ kind = symlinkKind

end Fields

section Checks
variable {limits : Settings} {s : Store} {v : Json}

theorem isName_of_check {name : String} (h : Body.checkName limits v = .ok (.text name)) :
    IsName limits name := (Body.boundedText_eq_ok.mp h).2

theorem isTagList_of_check {tags : List String}
    (h : Body.checkTags limits v = .ok (tags.map .text)) :
    IsTagList limits (sortTexts (Matcher.normalizeTags tags)) := by
  obtain ⟨_, hcount, hlengths⟩ := Body.checkTags_eq_ok.mp h
  rw [List.length_map] at hcount
  have hperm : (sortTexts (Matcher.normalizeTags tags)).Perm (Matcher.normalizeTags tags) :=
    sortBy_perm _ _
  have hmem : ∀ tag ∈ sortTexts (Matcher.normalizeTags tags), ∃ t ∈ tags, Text.lower t = tag :=
    fun tag htag => List.mem_map.mp (List.mem_eraseDups.mp (hperm.mem_iff.mp htag))
  refine ⟨?_, hperm.nodup_iff.mpr (nodup_eraseDups _), ?_, ?_, sortBy_key_pairwise id _⟩
  · have hfew := length_eraseDups_le (tags.map Text.lower)
    rw [List.length_map] at hfew
    rw [hperm.length_eq, Matcher.normalizeTags]
    omega
  · intro tag htag
    obtain ⟨t, ht, rfl⟩ := hmem tag htag
    have hlength := (hlengths _ (List.mem_map_of_mem ht)).1
    rw [RawText.length] at hlength
    exact Text.lower_ne_empty (by omega)
  · intro tag htag
    obtain ⟨t, _, rfl⟩ := hmem tag htag
    exact Text.lower_lower t

theorem isGrantList_of_check {isFile : Bool} {grants : Entries String}
    (h : Body.checkPermissions limits s isFile v = .ok grants) :
    IsGrantList limits (sortGrants grants) := by
  obtain ⟨entries, _, hchecked, hcount, _⟩ := Body.checkPermissions_eq_ok.mp h
  refine ⟨?_, sortBy_key_pairwise Prod.fst grants⟩
  rwa [sortGrants, (sortBy_perm _ grants).length_eq, ← hchecked.length_eq]

theorem IsGrantList.filter {grants : Entries String} (h : IsGrantList limits grants)
    (keep : String × String → Bool) : IsGrantList limits (grants.filter keep) := by
  have hcount := h.count
  have hfew := List.length_filter_le keep grants
  exact ⟨by omega, h.ordered.filter keep⟩

theorem isContents_of_check {kind : String} {ids : List String} (hkind : kind ∈ Body.nodeKinds)
    (hother : kind ≠ fileKind) (h : Body.checkContents limits s kind v = .ok ids) :
    IsContents limits kind ids := by
  obtain ⟨items, parsed, _, hcount, hparsed, _, rfl⟩ := Body.checkContents_eq_ok.mp h
  have hfew := length_eraseDups_le parsed
  have hlength := hparsed.length_eq
  simp only [Body.nodeKinds, List.mem_cons, List.not_mem_nil, or_false, hother, false_or] at hkind
  rcases hkind with rfl | rfl
  · have hmost : Body.mostContents limits "directory" = limits.maxContents := rfl
    exact .inl ⟨rfl, by omega⟩
  · exact .inr rfl

end Checks

/-! ## Well-formed nodes -/

structure FileNode.WellFormed (limits : Settings) (f : FileNode) : Prop where
  name : IsName limits f.name
  lowerName : f.lowerName = Text.lower f.name
  size : f.size = f.text.utf8ByteSize
  text : (f.size : Int) ≤ limits.maxTextBytes
  tags : IsTagList limits f.tags
  lock : Body.IsLock limits f.lock
  permissions : IsGrantList limits f.permissions

structure MetaNode.WellFormed (limits : Settings) (m : MetaNode) : Prop where
  name : IsName limits m.name
  lowerName : m.lowerName = Text.lower m.name
  contents : IsContents limits m.kind m.contents
  permissions : IsGrantList limits m.permissions

def Node.WellFormed (limits : Settings) : Node → Prop
  | .file f => f.WellFormed limits
  | .metaNode m => m.WellFormed limits

variable {limits : Settings} {s t : Store}

theorem Nodes.wellFormed_ofBody {body : Json.Object} {fields : Body.NewNode String}
    (h : Body.Accepts limits s body fields) (id owner : String) (now : Instant) :
    (ofBody id owner now fields).WellFormed limits := by
  cases h with
  | file _ hname hgrants htext htags hlock =>
    exact {
      name := isName_of_check hname
      lowerName := rfl
      size := rfl
      text := (Body.checkText_eq_ok.mp htext).2
      tags := isTagList_of_check htags
      lock := (Body.checkLock_eq_ok.mp hlock).2
      permissions := isGrantList_of_check hgrants }
  | metaNode _ hallowed hother hname hgrants hcontents =>
    exact {
      name := isName_of_check hname
      lowerName := rfl
      contents := isContents_of_check hallowed hother hcontents
      permissions := isGrantList_of_check hgrants }

namespace Body.Patch.Checked
variable {kind : String} {p : Body.Patch String} (hp : p.Checked limits s kind)
include hp

theorem isName {name : String} (h : IsName limits name) : IsName limits (p.name.getD name) :=
  holds_getD (fun _ hname => isName_of_check (hp.name hname).choose_spec) h

theorem isGrantList {grants : Entries String} (h : IsGrantList limits grants) :
    IsGrantList limits ((p.permissions.map sortGrants).getD grants) := by
  refine holds_getD (fun _ hgrants => ?_) h
  obtain ⟨_, hwritten, rfl⟩ := Option.map_eq_some_iff.mp hgrants
  exact isGrantList_of_check (hp.permissions hwritten).choose_spec

end Body.Patch.Checked

theorem Nodes.lowerName_patched (name : Option String) {old lower : String}
    (h : lower = Text.lower old) :
    (name.map Text.lower).getD lower = Text.lower (name.getD old) := by
  cases name with
  | none => exact h
  | some name => rfl

namespace FileNode.WellFormed
variable {f : FileNode} (hf : f.WellFormed limits)
include hf

theorem applyToFile {p : Body.Patch String} (hp : p.Checked limits s fileKind) (now : Instant) :
    (Nodes.applyToFile now p f).WellFormed limits := by
  rw [Nodes.applyToFile_eq]
  exact {
    name := hp.isName hf.name
    lowerName := Nodes.lowerName_patched p.name hf.lowerName
    size := by
      cases p.text with
      | none => exact hf.size
      | some text => rfl
    text := by
      refine holds_getD (P := fun size : Nat => (size : Int) ≤ limits.maxTextBytes) ?_ hf.text
      intro _ hsize
      obtain ⟨text, htext, rfl⟩ := Option.map_eq_some_iff.mp hsize
      exact (Body.checkText_eq_ok.mp (hp.text htext).choose_spec).2
    tags := by
      refine holds_getD (fun _ htags => ?_) hf.tags
      obtain ⟨tags, hwritten, rfl⟩ := Option.map_eq_some_iff.mp htags
      exact isTagList_of_check (hp.tags hwritten).choose_spec
    lock := by
      refine holds_getD (fun lock hlock => ?_) hf.lock
      exact (Body.checkLock_eq_ok.mp (hp.lock hlock).choose_spec).2
    permissions := hp.isGrantList hf.permissions }

end FileNode.WellFormed

namespace MetaNode.WellFormed
variable {m : MetaNode} (hm : m.WellFormed limits)
include hm

theorem kind_ne : m.kind ≠ fileKind := by
  rcases hm.contents with ⟨hkind, _⟩ | hkind <;> rw [hkind] <;> decide

theorem kind_mem : m.kind ∈ Body.nodeKinds := by
  rcases hm.contents with ⟨hkind, _⟩ | hkind <;> rw [hkind] <;> decide

theorem applyToMeta {p : Body.Patch String} (hp : p.Checked limits s m.kind) :
    (Nodes.applyToMeta p m).WellFormed limits := by
  rw [Nodes.applyToMeta_eq]
  exact {
    name := hp.isName hm.name
    lowerName := Nodes.lowerName_patched p.name hm.lowerName
    contents := by
      refine holds_getD (fun ids hids => ?_) hm.contents
      exact isContents_of_check hm.kind_mem hm.kind_ne (hp.contents hids).choose_spec
    permissions := hp.isGrantList hm.permissions }

end MetaNode.WellFormed

namespace Node.WellFormed
variable {n : Node} (hn : n.WellFormed limits)
include hn

theorem applyPatch {p : Body.Patch String} (hp : p.Checked limits s n.kind) (now : Instant) :
    (Nodes.applyPatch now p n).WellFormed limits := by
  cases n with
  | file f => exact FileNode.WellFormed.applyToFile hn hp now
  | metaNode m => exact MetaNode.WellFormed.applyToMeta hn hp

theorem withoutGrants (username : String) : (n.withoutGrants username).WellFormed limits := by
  cases n with
  | file f =>
    have hf : f.WellFormed limits := hn
    exact { hf with permissions := hf.permissions.filter _ }
  | metaNode m =>
    have hm : m.WellFormed limits := hn
    exact { hm with permissions := hm.permissions.filter _ }

theorem withoutContents (ids : List String) : (n.withoutContents ids).WellFormed limits := by
  cases n with
  | file f => exact hn
  | metaNode m =>
    have hm : m.WellFormed limits := hn
    refine { hm with contents := hm.contents.imp_left fun ⟨hkind, hcount⟩ => ⟨hkind, ?_⟩ }
    have hfew := List.length_filter_le (· ∉ ids) m.contents
    simp only
    omega

end Node.WellFormed

/-! ## Runs -/

variable {c : Call}

theorem Effect.forall_nodes {P : Node → Prop} (h : Effect c s t)
    (made : ∀ username body fields, Body.Accepts c.limits s body fields →
      P (Nodes.ofBody c.drawn username c.now fields))
    (patched : ∀ n p, p.Checked c.limits s n.kind → P n → P (Nodes.applyPatch c.now p n))
    (fewerGrants : ∀ n username, P n → P (n.withoutGrants username))
    (fewerContents : ∀ n ids, P n → P (n.withoutContents ids)) (hs : ∀ n ∈ s.nodes, P n) :
    ∀ n ∈ t.nodes, P n := by
  cases h with
  | nothing | register | amend => exact hs
  | dismiss =>
    intro n hn
    rw [Store.nodes_revokeGrants] at hn
    obtain ⟨k, hk, rfl⟩ := List.mem_map.mp hn
    exact fewerGrants k _ (hs k hk)
  | create _ checked _ written =>
    obtain ⟨body, _, haccepts⟩ := Body.checkNew_accepts checked
    intro n hn
    rcases List.mem_cons.mp ((Store.nodes_addNode written).mem_iff.mp hn) with rfl | hold
    · exact made _ body _ haccepts
    · exact hs n hold
  | change _ _ _ found checked =>
    intro n hn
    rcases Store.mem_replaceNode hn with hold | rfl
    · exact hs n hold
    · have hfound := hs _ (Query.mem_of_fetch found List.mem_cons_self)
      exact patched _ _ (Body.checkPatch_checked checked) hfound
  | remove =>
    intro n hn
    obtain ⟨k, hk, _, rfl⟩ := Store.mem_nodes_remove.mp hn
    exact fewerContents k _ (hs k hk)

theorem Effect.wellFormed (h : Effect c s t) (hs : ∀ n ∈ s.nodes, n.WellFormed c.limits) :
    ∀ n ∈ t.nodes, n.WellFormed c.limits :=
  h.forall_nodes (fun _ _ _ haccepts => Nodes.wellFormed_ofBody haccepts _ _ _)
    (fun _ _ hp hn => hn.applyPatch hp c.now) (fun _ username hn => hn.withoutGrants username)
    (fun _ ids hn => hn.withoutContents ids) hs

theorem Reachable.wellFormed {allowed : Call → Store → Prop} (h : Reachable allowed s)
    (hfixed : ∀ c s, allowed c s → c.limits = limits) : ∀ n ∈ s.nodes, n.WellFormed limits := by
  refine h.invariant (P := fun s => ∀ n ∈ s.nodes, n.WellFormed limits)
    (fun _ hn => absurd hn List.not_mem_nil) fun c _ _ next heffect hs => ?_
  cases hfixed _ _ next
  exact heffect.wellFormed hs

/-- In every run under one group of settings, whatever is asked for and whatever is drawn, every
file and every directory or symlink is well-formed. -/
theorem nodes_keep_their_form (h : Reachable (fun c _ => c.limits = limits) s) :
    (∀ f ∈ s.files, (Node.file f).kind = "file" ∧ f.WellFormed limits) ∧
      ∀ m ∈ s.metas, m.WellFormed limits := by
  have hforms := h.wellFormed fun _ _ => id
  constructor
  · exact fun f hf => ⟨rfl, hforms (.file f) (Store.mem_nodes_file.mpr hf)⟩
  · exact fun m hm => hforms (.metaNode m) (Store.mem_nodes_metaNode.mpr hm)

theorem nodes_keep_their_form_sample :
    Reachable (fun c _ => c.limits = Sample.limits) Sample.shelf ∧
      (∀ f ∈ Sample.shelf.files, (Node.file f).kind = "file" ∧ f.WellFormed Sample.limits) ∧
      ∀ m ∈ Sample.shelf.metas, m.WellFormed Sample.limits :=
  have hrun := Sample.shelf_kept.mono fun _ _ => And.left
  ⟨hrun, nodes_keep_their_form hrun⟩

end FileShare

import FileShare.Proofs.Runs.Identity
import FileShare.Proofs.Search.Lookups

/-! # Grants never dangle

A grant names its grantee, and nothing in the tables ties the name to an account. That there is one
is kept up by the checks of bodies and by the revocation of its grants when an account ends. The
name that stands for everyone is nobody's name, so what is granted to it opens nothing to a user.
-/
namespace FileShare

structure SoundGrants (s : Store) (kind : String) (grants : Entries String) : Prop where
  known : ∀ g ∈ grants, g.1 ≠ publicGrantee → s.hasUser g.1
  everyone : ∀ g ∈ grants, g.1 = publicGrantee → kind = fileKind ∧ g.2 = "view"
  levels : ∀ g ∈ grants, g.2 = "view" ∨ g.2 = "edit"

def Store.GrantsSound (s : Store) : Prop := ∀ n ∈ s.nodes, SoundGrants s n.kind n.permissions

namespace SoundGrants
variable {s t : Store} {kind : String} {grants fewer : Entries String}

theorem mono (h : SoundGrants s kind grants) (hfewer : ∀ g ∈ fewer, g ∈ grants)
    (hst : ∀ g ∈ fewer, s.hasUser g.1 → t.hasUser g.1) : SoundGrants t kind fewer where
  known g hg hne := hst g hg (h.known g (hfewer g hg) hne)
  everyone g hg := h.everyone g (hfewer g hg)
  levels g hg := h.levels g (hfewer g hg)

theorem of_check {limits : Settings} {v : Json}
    (h : Body.checkPermissions limits s (kind = fileKind) v = .ok grants) :
    SoundGrants s kind grants := by
  obtain ⟨entries, _, hchecked, _, hknown⟩ := Body.checkPermissions_eq_ok.mp h
  have hgrant : ∀ g ∈ grants, g.2 ∈ Matcher.permissionLevels ∧
      (g.1 = publicGrantee → kind = fileKind ∧ g.2 = "view") := by
    intro g hg
    obtain ⟨e, _, he⟩ := Outcome.exists_mem_of_forall₂ hchecked hg
    obtain ⟨level, _, hlevel, heveryone, hraw⟩ := Body.checkGrant_eq_ok.mp he
    obtain ⟨hname, rfl⟩ := Prod.ext_iff.mp hraw
    refine ⟨hlevel, fun hpublic => ?_⟩
    simpa [Body.rawGrant] using heveryone (hname.trans (congrArg RawText.text hpublic))
  refine ⟨hknown, fun g hg => (hgrant g hg).2, fun g hg => ?_⟩
  simpa [Matcher.permissionLevels] using (hgrant g hg).1

theorem sortGrants (h : SoundGrants s kind grants) : SoundGrants s kind (sortGrants grants) :=
  h.mono (fun _ => mem_sortBy.mp) fun _ _ => id

end SoundGrants

namespace Nodes

theorem grants_ofBody {limits : Settings} {s : Store} {body : Json.Object}
    {fields : Body.NewNode String} (h : Body.Accepts limits s body fields) (id owner : String)
    (now : Instant) :
    SoundGrants s (ofBody id owner now fields).kind (ofBody id owner now fields).permissions := by
  cases h with
  | @file _ _ _ _ grants _ _ hgrants =>
    have hsound : SoundGrants s fileKind grants := .of_check (by simpa using hgrants)
    exact hsound.sortGrants
  | @metaNode kind _ _ grants _ _ hother _ hgrants =>
    have hsound : SoundGrants s kind grants := .of_check (by simpa [hother] using hgrants)
    exact hsound.sortGrants

theorem grants_applyPatch {limits : Settings} {s : Store} {n : Node} {v : Json}
    {p : Body.Patch String} (h : Body.checkPatch limits s n.kind v = .ok p.raw) (now : Instant)
    (hn : SoundGrants s n.kind n.permissions) :
    SoundGrants s (applyPatch now p n).kind (applyPatch now p n).permissions := by
  rw [kind_applyPatch, permissions_applyPatch]
  cases hgrants : p.permissions with
  | none => exact hn
  | some grants =>
    obtain ⟨w, hw⟩ := Body.checkPatch_permissions h hgrants
    exact (SoundGrants.of_check hw).sortGrants

end Nodes

variable {c : Call} {s t : Store}

/-- The end of an account is the one effect that takes a name away, and it takes the grants to that
name with it. -/
theorem Effect.grantsSound (h : Effect c s t) (hkept : ∀ username,
    c.operation ≠ .deleteUser username → s.hasUser username → t.hasUser username)
    (hs : s.GrantsSound) : t.GrantsSound := by
  have hsame : ∀ {kind : String} {grants : Entries String},
      (∀ username, c.operation ≠ .deleteUser username) → SoundGrants s kind grants →
        SoundGrants t kind grants :=
    fun hstays hgrants => hgrants.mono (fun _ => id) fun g _ => hkept g.1 (hstays g.1)
  cases h with
  | nothing => exact hs
  | register asked => exact fun n hn => hsame (by simp [asked]) (hs n hn)
  | amend asked => exact fun n hn => hsame (by simp [asked]) (hs n hn)
  | @dismiss username _ asked =>
    intro n hn
    rw [Store.nodes_revokeGrants] at hn
    obtain ⟨k, hk, rfl⟩ := List.mem_map.mp hn
    rw [Node.kind_withoutGrants, Node.permissions_withoutGrants]
    -- The grants to the name are gone, so no name that is left is the one that ends.
    refine (hs k hk).mono (fun g hg => (List.mem_filter.mp hg).1) fun g hg => hkept g.1 ?_
    have hother : g.1 ≠ username := by simpa using (List.mem_filter.mp hg).2
    rw [asked]
    rintro ⟨⟩
    exact hother rfl
  | create asked checked _ written =>
    obtain ⟨body, _, haccepts⟩ := Body.checkNew_accepts checked
    intro n hn
    refine hsame (by simp [asked]) ?_
    rcases List.mem_cons.mp ((Store.nodes_addNode written).mem_iff.mp hn) with rfl | hold
    · exact Nodes.grants_ofBody haccepts _ _ _
    · exact hs n hold
  | change asked _ _ found checked =>
    have hfound := hs _ (Query.mem_of_fetch found List.mem_cons_self)
    intro n hn
    refine hsame (by simp [asked]) ?_
    rcases Store.mem_replaceNode hn with hold | rfl
    · exact hs n hold
    · exact Nodes.grants_applyPatch checked c.now hfound
  | remove asked =>
    intro n hn
    obtain ⟨k, hk, _, rfl⟩ := Store.mem_nodes_remove.mp hn
    rw [Node.kind_withoutContents, Node.permissions_withoutContents]
    exact hsame (by simp [asked]) (hs k hk)

theorem Reachable.grantsSound {allowed : Call → Store → Prop} (h : Reachable allowed s) :
    s.GrantsSound := by
  induction h with
  | empty => exact fun _ hn => absurd hn List.not_mem_nil
  | @call c s before _ ih =>
    exact (c.effect s).grantsSound
      (fun _ hstays hused => Call.hasUser_after before.distinct hused hstays) ih

/-! ## Grants to everyone -/

section Everyone
variable {username : String} (hname : username ≠ publicGrantee) (n : Node)
include hname

theorem visibleTo_withoutPublic :
    (n.withoutGrants publicGrantee).VisibleTo username ↔ n.VisibleTo username := by
  have howner : (n.withoutGrants publicGrantee).owner = n.owner := by cases n <;> rfl
  simp only [Node.VisibleTo, howner, Node.permissions_withoutGrants, List.mem_filter,
    decide_eq_true_eq]
  refine or_congr_right (exists_congr fun g => ?_)
  constructor
  · rintro ⟨⟨hg, _⟩, rfl⟩
    exact ⟨hg, rfl⟩
  · rintro ⟨hg, rfl⟩
    exact ⟨⟨hg, hname⟩, rfl⟩

theorem editableBy_withoutPublic :
    (n.withoutGrants publicGrantee).EditableBy username ↔ n.EditableBy username := by
  have howner : (n.withoutGrants publicGrantee).owner = n.owner := by cases n <;> rfl
  simp only [Node.EditableBy, howner, Node.permissions_withoutGrants, List.mem_filter,
    decide_eq_true_eq]
  exact or_congr_right (and_iff_left hname)

end Everyone

/-- What a user may see and may edit is the same without the grants to everyone: the two queries by
identifier select the same rows. -/
theorem rows_withoutPublic (s : Store) {username : String} (hname : username ≠ publicGrantee) :
    (∀ ids, (Query.idPlan ids username).rows (s.revokeGrants publicGrantee) =
      (Query.idPlan ids username).rows s) ∧
    ∀ id, (Query.editPlan id username).rows (s.revokeGrants publicGrantee) =
      (Query.editPlan id username).rows s := by
  constructor
  · intro ids
    refine Query.rows_of_map (s.nodes_revokeGrants publicGrantee)
      (fun n => n.id_withoutGrants _) (fun n => n.kind_withoutGrants _)
      (Query.idPlan_answers ids username) fun n _ => ?_
    simp only [Query.idPlan_selects, Node.id_withoutGrants, visibleTo_withoutPublic hname]
  · intro id
    refine Query.rows_of_map (s.nodes_revokeGrants publicGrantee)
      (fun n => n.id_withoutGrants _) (fun n => n.kind_withoutGrants _)
      (Query.editPlan_answers id username) fun n _ => ?_
    simp only [Query.editPlan_selects, Node.id_withoutGrants, editableBy_withoutPublic hname]

/-! ## The rule -/

/-- In every run, under whatever settings and whatever is drawn, grants are to users who exist, at
one of the two levels; only files are open to everyone, and only to view. No user has the name that
stands for everyone, so no grant to it lets a user see or edit a node. -/
theorem grants_never_dangle {allowed : Call → Store → Prop} (h : Reachable allowed s) :
    (∀ n ∈ s.nodes, ∀ g ∈ n.permissions,
      (g.1 ≠ publicGrantee → ∃ u ∈ s.users, u.username = g.1) ∧
      (g.1 = publicGrantee → (∃ f ∈ s.files, n = .file f) ∧ g.2 = "view") ∧
      (g.2 = "view" ∨ g.2 = "edit")) ∧
    (∀ u ∈ s.users, u.username ≠ publicGrantee) ∧
    ∀ u ∈ s.users,
      (∀ n ∈ s.nodes,
        ((n.withoutGrants publicGrantee).VisibleTo u.username ↔ n.VisibleTo u.username) ∧
        ((n.withoutGrants publicGrantee).EditableBy u.username ↔ n.EditableBy u.username)) ∧
      (∀ ids, (Query.idPlan ids u.username).rows (s.revokeGrants publicGrantee) =
        (Query.idPlan ids u.username).rows s) ∧
      ∀ id, (Query.editPlan id u.username).rows (s.revokeGrants publicGrantee) =
        (Query.editPlan id u.username).rows s := by
  refine ⟨fun n hn g hg => ?_, h.unreserved, fun u hu => ?_⟩
  · have hsound := h.grantsSound n hn
    refine ⟨fun hne => Store.hasUser_iff.mp (hsound.known g hg hne), fun heveryone => ?_,
      hsound.levels g hg⟩
    obtain ⟨hkind, hview⟩ := hsound.everyone g hg heveryone
    cases n with
    | file f => exact ⟨⟨f, Store.mem_nodes_file.mp hn, rfl⟩, hview⟩
    | metaNode m => exact absurd hkind (h.kinds m (Store.mem_nodes_metaNode.mp hn))
  · have hname := h.unreserved u hu
    exact ⟨fun n _ => ⟨visibleTo_withoutPublic hname n, editableBy_withoutPublic hname n⟩,
      rows_withoutPublic s hname⟩

theorem grants_never_dangle_sample :
    Reachable Call.Fresh Sample.stall ∧
      (∀ n ∈ Sample.stall.nodes, ∀ g ∈ n.permissions,
        (g.1 ≠ publicGrantee → ∃ u ∈ Sample.stall.users, u.username = g.1) ∧
        (g.1 = publicGrantee → (∃ f ∈ Sample.stall.files, n = .file f) ∧ g.2 = "view") ∧
        (g.2 = "view" ∨ g.2 = "edit")) ∧
      ∀ u ∈ Sample.stall.users, u.username ≠ publicGrantee :=
  have hrule := grants_never_dangle Sample.stall_reachable
  ⟨Sample.stall_reachable, hrule.1, hrule.2.1⟩

end FileShare

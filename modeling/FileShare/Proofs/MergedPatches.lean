import FileShare.Proofs.Bodies

/-! # Patches put together

Two patches can be put into one: a field of the later patch stands in for that of the earlier one.
The check of a field looks at nothing but its value and the names that the store knows, so what was
accepted in parts is accepted as a whole, with the values that the parts gave.
-/
namespace FileShare

namespace Entries
universe u v
variable {κ : Type u} {α : Type v} [DecidableEq κ]

/-- The entries with those of the newer ones written over them. -/
def overriddenBy (old new : List (κ × α)) : List (κ × α) :=
  new.foldr (fun e all => put all e.1 e.2) old

theorem get?_overriddenBy (old new : List (κ × α)) (name : κ) :
    get? (overriddenBy old new) name = (get? new name).or (get? old name) := by
  induction new with
  | nil => rfl
  | cons e rest ih =>
    have hput : get? (overriddenBy old (e :: rest)) name =
        if e.1 = name then some e.2 else get? (overriddenBy old rest) name := get?_put ..
    rw [hput, ih, get?]
    split <;> rfl

theorem mem_names_overriddenBy {old new : List (κ × α)} {name : κ} :
    name ∈ names (overriddenBy old new) ↔ name ∈ names old ∨ name ∈ names new := by
  induction new with
  | nil => simp [overriddenBy, names]
  | cons e rest ih =>
    have hput : names (overriddenBy old (e :: rest)) =
        if e.1 ∈ names (overriddenBy old rest) then names (overriddenBy old rest)
        else names (overriddenBy old rest) ++ [e.1] := names_put ..
    have hnames : names (e :: rest) = e.1 :: names rest := rfl
    rw [hput, hnames, List.mem_cons, or_left_comm, ← ih]
    split
    · rename_i hheld
      exact (or_iff_right_of_imp fun hname => hname ▸ hheld).symm
    · rw [List.mem_append, List.mem_singleton, or_comm]

theorem overriddenBy_ne_nil {old : List (κ × α)} (h : old ≠ []) (new : List (κ × α)) :
    overriddenBy old new ≠ [] := by
  obtain ⟨e, he⟩ := List.exists_mem_of_ne_nil old h
  have hname : e.1 ∈ names (overriddenBy old new) :=
    mem_names_overriddenBy.mpr (.inl (List.mem_map_of_mem he))
  intro hnil
  rw [hnil] at hname
  exact absurd hname List.not_mem_nil

end Entries

namespace Fields
variable {earlier later : Json.Object}

theorem ifPresent_overridden {α : Type} {field : RawText} {check : Json → Except Failure α}
    {a b : Option α} (hearlier : ifPresent earlier field check = .ok a)
    (hlater : ifPresent later field check = .ok b) :
    ifPresent (Entries.overriddenBy earlier later) field check = .ok (b.or a) := by
  unfold ifPresent at hlater ⊢
  rw [Entries.get?_overriddenBy]
  cases hvalue : Entries.get? later field with
  | none =>
    rw [hvalue] at hlater
    cases hlater
    exact hearlier
  | some v =>
    rw [hvalue] at hlater
    obtain ⟨written, _, rfl⟩ := Outcome.map_eq_ok.mp hlater
    exact hlater

theorem checkKnown_overridden {allowed : List RawText}
    (hearlier : checkKnown allowed earlier = .ok ()) (hlater : checkKnown allowed later = .ok ()) :
    checkKnown allowed (Entries.overriddenBy earlier later) = .ok () := by
  refine checkKnown_eq_ok.mpr fun name hname => ?_
  rcases Entries.mem_names_overriddenBy.mp hname with hold | hnew
  · exact checkKnown_eq_ok.mp hearlier name hold
  · exact checkKnown_eq_ok.mp hlater name hnew

end Fields

namespace Body
variable {limits : Settings} {s : Store} {earlier later : Json.Object} {p q : Patch String}

/-- The patch that writes what one of the patches writes, and the later one where both do. -/
def Patch.overriddenBy (p q : Patch τ) : Patch τ where
  name := q.name.or p.name
  permissions := q.permissions.or p.permissions
  text := q.text.or p.text
  tags := q.tags.or p.tags
  lock := q.lock.or p.lock
  contents := q.contents.or p.contents
  owner := q.owner.or p.owner

theorem AcceptsFilePatch.overridden (hearlier : AcceptsFilePatch limits s earlier p)
    (hlater : AcceptsFilePatch limits s later q) :
    AcceptsFilePatch limits s (Entries.overriddenBy earlier later) (p.overriddenBy q) where
  name := by
    rw [Patch.overriddenBy, Option.map_or]
    exact Fields.ifPresent_overridden hearlier.name hlater.name
  permissions := Fields.ifPresent_overridden hearlier.permissions hlater.permissions
  text := Fields.ifPresent_overridden hearlier.text hlater.text
  tags := by
    rw [Patch.overriddenBy, Option.map_or]
    exact Fields.ifPresent_overridden hearlier.tags hlater.tags
  lock := Fields.ifPresent_overridden hearlier.lock hlater.lock
  owner := Fields.ifPresent_overridden hearlier.owner hlater.owner
  known := Fields.checkKnown_overridden hearlier.known hlater.known
  noContents := by rw [Patch.overriddenBy, hearlier.noContents, hlater.noContents, Option.or_none]

theorem AcceptsMetaPatch.overridden {kind : String}
    (hearlier : AcceptsMetaPatch limits s kind earlier p)
    (hlater : AcceptsMetaPatch limits s kind later q) :
    AcceptsMetaPatch limits s kind (Entries.overriddenBy earlier later) (p.overriddenBy q) where
  name := by
    rw [Patch.overriddenBy, Option.map_or]
    exact Fields.ifPresent_overridden hearlier.name hlater.name
  permissions := Fields.ifPresent_overridden hearlier.permissions hlater.permissions
  contents := Fields.ifPresent_overridden hearlier.contents hlater.contents
  owner := Fields.ifPresent_overridden hearlier.owner hlater.owner
  known := Fields.checkKnown_overridden hearlier.known hlater.known
  noFileFields := by
    obtain ⟨htext, htags, hlock⟩ := hearlier.noFileFields
    obtain ⟨hlaterText, hlaterTags, hlaterLock⟩ := hlater.noFileFields
    simp [Patch.overriddenBy, htext, htags, hlock, hlaterText, hlaterTags, hlaterLock]

theorem checkPatch_overridden {kind : String}
    (hearlier : checkPatch limits s kind (.obj earlier) = .ok p.raw)
    (hlater : checkPatch limits s kind (.obj later) = .ok q.raw) :
    checkPatch limits s kind (.obj (Entries.overriddenBy earlier later)) =
      .ok (p.overriddenBy q).raw := by
  simp only [checkPatch] at hearlier hlater ⊢
  split
  · rename_i hfile
    rw [if_pos hfile] at hearlier hlater
    exact ((checkFilePatch_accepts hearlier).overridden (checkFilePatch_accepts hlater)).check_eq
  · rename_i hother
    rw [if_neg hother] at hearlier hlater
    exact ((checkMetaPatch_accepts hearlier).overridden (checkMetaPatch_accepts hlater)).check_eq

end Body
end FileShare

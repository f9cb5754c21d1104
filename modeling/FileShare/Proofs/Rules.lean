import FileShare.Proofs.Outcome

/-! # Checks that follow rules

A rule says what has to hold, and how a check fails where it does not. A check that follows a list
of rules accepts what meets all of them and otherwise reports the first that is violated. Checks
that are made one after the other follow their rules one after the other.
-/
namespace FileShare
open Outcome

structure Rule where
  holds : Prop
  failure : Failure

namespace Rule

/-- A rule whose violation is rejected. -/
def demand (holds : Prop) (cause : Rejection) : Rule := ⟨holds, .rejected cause⟩

@[simp] theorem holds_demand {p : Prop} {cause : Rejection} : (demand p cause).holds ↔ p := Iff.rfl

@[simp] theorem failure_demand (p : Prop) (cause : Rejection) :
    (demand p cause).failure = .rejected cause := rfl

def never (cause : Rejection) : Rule := demand False cause

/-- The failure is that of the first rule that does not hold. -/
inductive FirstViolated : List Rule → Failure → Prop
  | here {r : Rule} {rest : List Rule} (violated : ¬ r.holds) : FirstViolated (r :: rest) r.failure
  | later {r : Rule} {rest : List Rule} {e : Failure} (met : r.holds)
      (more : FirstViolated rest e) : FirstViolated (r :: rest) e

namespace FirstViolated
variable {rules more : List Rule} {e other : Failure}

theorem append (h : FirstViolated rules e) (more : List Rule) :
    FirstViolated (rules ++ more) e := by
  induction h with
  | here violated => exact .here violated
  | later met _ ih => exact .later met ih

theorem of_met (met : ∀ r ∈ rules, r.holds) (h : FirstViolated more e) :
    FirstViolated (rules ++ more) e := by
  induction rules with
  | nil => exact h
  | cons r rest ih =>
    obtain ⟨hr, hrest⟩ := List.forall_mem_cons.mp met
    exact .later hr (ih hrest)

theorem not_met (h : FirstViolated rules e) : ¬ ∀ r ∈ rules, r.holds := by
  intro met
  induction h with
  | here violated => exact violated (met _ List.mem_cons_self)
  | later _ _ ih => exact ih (List.forall_mem_cons.mp met).2

theorem unique (h : FirstViolated rules e) (h' : FirstViolated rules other) : e = other := by
  induction h with
  | here violated =>
    cases h' with
    | here => rfl
    | later met => exact absurd met violated
  | later met _ ih =>
    cases h' with
    | here violated => exact absurd met violated
    | later _ more => exact ih more

/-- Where every member of a list has a rule, the first violated rule is that of the first member
that violates its own. -/
theorem map_iff {α : Type} {rule : α → Rule} {as : List α} :
    FirstViolated (as.map rule) e ↔
      ∃ before a after, as = before ++ a :: after ∧ (∀ b ∈ before, (rule b).holds) ∧
        ¬ (rule a).holds ∧ e = (rule a).failure := by
  constructor
  · intro h
    induction as with
    | nil => cases h
    | cons a as ih =>
      cases h with
      | here violated => exact ⟨[], a, as, rfl, by simp, violated, rfl⟩
      | later met more =>
        obtain ⟨before, b, after, rfl, hbefore, violated, rfl⟩ := ih more
        exact ⟨a :: before, b, after, rfl, List.forall_mem_cons.mpr ⟨met, hbefore⟩, violated, rfl⟩
  · rintro ⟨before, a, after, rfl, hbefore, violated, rfl⟩
    rw [List.map_append]
    exact .of_met (List.forall_mem_map.mpr hbefore) (.here violated)

end FirstViolated

variable {α β : Type}

/-- The check accepts what meets all rules, and otherwise reports the first that is violated. -/
def Follows (rules : List Rule) : Except Failure α → Prop
  | .ok _ => ∀ r ∈ rules, r.holds
  | .error e => FirstViolated rules e

namespace Follows
variable {r : Rule} {rules more : List Rule} {x : Except Failure α}

theorem ok_iff (h : Follows rules x) : (∃ a, x = .ok a) ↔ ∀ r ∈ rules, r.holds := by
  match x, h with
  | .ok a, met => exact ⟨fun _ => met, fun _ => ⟨a, rfl⟩⟩
  | .error e, h => exact ⟨nofun, fun met => absurd met h.not_met⟩

theorem error_iff (h : Follows rules x) {e : Failure} : x = .error e ↔ FirstViolated rules e := by
  match x, h with
  | .ok a, met => exact ⟨nofun, fun violated => absurd met violated.not_met⟩
  | .error other, h =>
    constructor
    · rintro ⟨⟩
      exact h
    · intro h'
      rw [h.unique h']

theorem accepts (a : α) : Follows [] (.ok a : Except Failure α) := by simp [Follows]

theorem fails (violated : ¬ r.holds) : Follows (r :: rules) (.error r.failure : Except Failure α) :=
  .here violated

theorem rejects {p : Prop} {cause : Rejection} (violated : ¬ p) :
    Follows (demand p cause :: rules) (reject cause : Except Failure α) :=
  .here violated

theorem met (h : r.holds) (hx : Follows rules x) : Follows (r :: rules) x := by
  match x, hx with
  | .ok a, hrules => exact List.forall_mem_cons.mpr ⟨h, hrules⟩
  | .error e, violated => exact .later h violated

theorem single (hok : (∃ a, x = .ok a) ↔ r.holds)
    (hfail : FailsOnly x (· = r.failure)) : Follows [r] x := by
  cases x with
  | ok a => exact List.forall_mem_singleton.mpr (hok.mp ⟨a, rfl⟩)
  | error e =>
    obtain rfl := failsOnly_error.mp hfail
    exact .here fun h => nomatch hok.mpr h

theorem bind (hx : Follows rules x) {f : α → Except Failure β}
    (hf : ∀ a, x = .ok a → Follows more (f a)) : Follows (rules ++ more) (x >>= f) := by
  match x, hx with
  | .ok a, met =>
    have hmore := hf a rfl
    rw [ok_bind]
    match f a, hmore with
    | .ok b, hmore => exact List.forall_mem_append.mpr ⟨met, hmore⟩
    | .error e, hmore => exact .of_met met hmore
  | .error e, violated => exact violated.append more

theorem map (hx : Follows rules x) (f : α → β) : Follows rules (f <$> x) := by
  match x, hx with
  | .ok a, met => exact met
  | .error e, violated => exact violated

theorem mapM {f : α → Except Failure β} {rule : α → Rule} {as : List α}
    (hf : ∀ a ∈ as, Follows [rule a] (f a)) : Follows (as.map rule) (as.mapM f) := by
  induction as with
  | nil => exact accepts []
  | cons a as ih =>
    obtain ⟨ha, has⟩ := List.forall_mem_cons.mp hf
    rw [List.mapM_cons, List.map_cons, ← List.singleton_append]
    exact ha.bind fun b _ => (ih has).map (b :: ·)

end Follows
end Rule
end FileShare

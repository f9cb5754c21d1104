/-! # Lists without repetition

Dropping repetitions keeps the first occurrence of each element, in order.
-/
namespace FileShare
universe u
variable {α : Type u} [DecidableEq α]

theorem filter_eraseDups (p : α → Bool) (l : List α) :
    l.eraseDups.filter p = (l.filter p).eraseDups := by
  match l with
  | [] => rfl
  | a :: rest =>
    have ih := filter_eraseDups p (rest.filter fun b => !b == a)
    have hswap : (rest.filter fun b => !b == a).filter p =
        (rest.filter p).filter fun b => !b == a := by
      simp only [List.filter_filter, Bool.and_comm]
    rw [List.eraseDups_cons]
    cases hp : p a with
    | true =>
      rw [List.filter_cons_of_pos hp, List.filter_cons_of_pos hp, ih, hswap, List.eraseDups_cons]
    | false =>
      have hother : ∀ b ∈ rest.filter p, (!b == a) = true := by
        intro b hb
        rw [Bool.not_eq_true', beq_eq_false_iff_ne]
        rintro rfl
        simp [hp] at hb
      have hp' : ¬ p a = true := by simp [hp]
      rw [List.filter_cons_of_neg hp', List.filter_cons_of_neg hp', ih, hswap,
        List.filter_eq_self.mpr hother]
termination_by l.length
decreasing_by exact Nat.lt_succ_of_le (List.length_filter_le _ _)

/-- The first element stays, and is dropped from what the others leave. -/
theorem eraseDups_cons_filter (a : α) (l : List α) :
    (a :: l).eraseDups = a :: l.eraseDups.filter (· ≠ a) := by
  have hne : (fun b => !b == a) = fun b => decide (b ≠ a) := by
    funext b
    by_cases h : b = a <;> simp [h]
  rw [List.eraseDups_cons, filter_eraseDups, hne]

theorem nodup_eraseDups (l : List α) : l.eraseDups.Nodup := by
  induction l with
  | nil => simp
  | cons a rest ih =>
    rw [eraseDups_cons_filter, List.nodup_cons]
    exact ⟨by simp, ih.filter _⟩

theorem length_eraseDups_le (l : List α) : l.eraseDups.length ≤ l.length := by
  induction l with
  | nil => exact Nat.le_refl 0
  | cons a rest ih =>
    rw [eraseDups_cons_filter, List.length_cons, List.length_cons]
    exact Nat.succ_le_succ (Nat.le_trans (List.length_filter_le _ _) ih)

theorem eraseDups_of_nodup {l : List α} (h : l.Nodup) : l.eraseDups = l := by
  induction l with
  | nil => rfl
  | cons a rest ih =>
    obtain ⟨fresh, tail⟩ := List.nodup_cons.mp h
    have keepsAll : ∀ b ∈ rest, decide (b ≠ a) = true := fun b hb =>
      decide_eq_true fun e => fresh (e ▸ hb)
    rw [eraseDups_cons_filter, ih tail, List.filter_eq_self.mpr keepsAll]

theorem eraseDups_ordered (l : List α) :
    l.eraseDups.Pairwise fun a b => l.idxOf a < l.idxOf b := by
  induction l with
  | nil => exact .nil
  | cons a rest ih =>
    have hlater : ∀ {b}, b ∈ rest.eraseDups.filter (· ≠ a) →
        (a :: rest).idxOf b = rest.idxOf b + 1 := by
      intro b hb
      have hne : b ≠ a := by simpa using (List.mem_filter.mp hb).2
      rw [List.idxOf_cons, beq_false_of_ne hne.symm, cond_false]
    rw [eraseDups_cons_filter, List.pairwise_cons]
    constructor
    · intro b hb
      rw [hlater hb, List.idxOf_cons_self]
      exact Nat.succ_pos _
    · refine (ih.filter _).imp_of_mem fun hb hc h => ?_
      rw [hlater hb, hlater hc]
      exact Nat.succ_lt_succ h

end FileShare

import FileShare.Proofs.Identifiers
import FileShare.Text.LowerCase

/-! # Lower case is final

A text in lower case has no other lower case. The table of the letters shows it for single
characters: what a run of letters is sent to lies in no run. The two letters that have a form of
their own go to characters of which the same holds.
-/
namespace FileShare.Text

/-! ## The table -/

namespace CaseRun

/-- Nothing that the first run gives is covered by the second. -/
def isApart (r q : CaseRun) : Bool :=
  (r.image r.last).blt q.first || q.last.blt (r.image r.first) ||
    (r.first == r.last || r.step == 2) && q.step == 2 && 0 ≤ r.first + r.shift &&
      (r.image r.first + q.first) % 2 == 1

theorem covers_iff {r : CaseRun} {n : Nat} :
    r.covers n ↔ (r.first ≤ n ∧ n ≤ r.last) ∧ (n - r.first) % r.step = 0 := by
  simp [covers]

theorem not_covers_image {r q : CaseRun} (h : r.isApart q) {n : Nat} (hn : r.covers n) :
    ¬ q.covers (r.image n) := by
  rw [covers_iff] at hn ⊢
  obtain ⟨⟨hfirst, hlast⟩, hstep⟩ := hn
  simp only [isApart, Bool.or_eq_true, Bool.and_eq_true, Nat.blt_eq, decide_eq_true_iff,
    beq_iff_eq] at h
  simp only [image] at h ⊢
  rintro ⟨⟨hleft, hright⟩, hgrid⟩
  rcases h with (hbelow | habove) | ⟨⟨⟨hwide, hq⟩, hleast⟩, hodd⟩
  · omega
  · omega
  -- Images of even distance, and a run of even steps that starts at an odd distance from them.
  · have heven : (n - r.first) % 2 = 0 := by
      rcases hwide with hone | htwo
      · omega
      · rwa [htwo] at hstep
    rw [hq] at hgrid
    omega

end CaseRun

theorem lowerRuns_apart : lowerRuns.all fun r => lowerRuns.all r.isApart := by decide +kernel

theorem lowerCode_eq_self {n : Nat} (h : ∀ r ∈ lowerRuns, ¬ r.covers n) : lowerCode n = n := by
  unfold lowerCode
  split
  · have hletters := h ⟨0x41, 0x5a, 1, 32⟩ (by decide)
    simp only [CaseRun.covers_iff, Nat.mod_one, and_true] at hletters
    rw [if_neg hletters]
  · rw [mapCase, List.find?_eq_none.mpr h]

theorem lowerCode_cases (n : Nat) :
    lowerCode n = n ∨ ∃ r ∈ lowerRuns, r.covers n ∧ lowerCode n = r.image n := by
  unfold lowerCode
  split
  · split
    · rename_i hletter
      refine .inr ⟨⟨0x41, 0x5a, 1, 32⟩, by decide, CaseRun.covers_iff.mpr ⟨hletter, ?_⟩, ?_⟩
      · exact Nat.mod_one _
      · simp only [CaseRun.image]
        omega
    · exact .inl rfl
  · unfold mapCase
    split
    · rename_i r hr
      exact .inr ⟨r, List.mem_of_find?_eq_some hr, by simpa using List.find?_some hr, rfl⟩
    · exact .inl rfl

theorem lowerCode_lowerCode (n : Nat) : lowerCode (lowerCode n) = lowerCode n := by
  rcases lowerCode_cases n with h | ⟨r, hr, hcovers, h⟩
  · rw [h, h]
  · rw [h]
    have hapart := List.all_eq_true.mp lowerRuns_apart r hr
    exact lowerCode_eq_self fun q hq =>
      CaseRun.not_covers_image (List.all_eq_true.mp hapart q hq) hcovers

/-! ## Characters -/

@[simp] theorem lowerChar_lowerChar (c : Char) : lowerChar (lowerChar c) = lowerChar c := by
  by_cases hvalid : (lowerCode c.toNat).isValidChar
  · have hcode : (lowerChar c).toNat = lowerCode c.toNat := by
      rw [lowerChar, Char.ofNat, dif_pos hvalid]
      rfl
    rw [lowerChar, hcode, lowerCode_lowerCode]
    rfl
  -- What is no character is read as the one with the code zero.
  · have hzero : lowerChar c = Char.ofNat 0 := by
      rw [lowerChar, Char.ofNat, dif_neg hvalid]
      rfl
    rw [hzero]
    decide

theorem ne_of_lowerChar_eq {c : Char} (h : lowerChar c = c) : c ≠ 'Σ' ∧ c ≠ 'İ' := by
  constructor
  · rintro rfl
    exact absurd h (by decide)
  · rintro rfl
    exact absurd h (by decide)

/-! ## Texts -/

theorem lowerFrom_eq_self (before : List Char) {cs : List Char} (h : ∀ c ∈ cs, lowerChar c = c) :
    lowerFrom before cs = cs := by
  rw [lowerFrom_eq_map before fun c hc => ne_of_lowerChar_eq (h c hc)]
  conv_rhs => rw [← List.map_id cs]
  exact List.map_congr_left h

theorem lowerChar_of_mem_lowerFrom {before cs : List Char} :
    ∀ c ∈ lowerFrom before cs, lowerChar c = c := by
  induction cs generalizing before with
  | nil => simp [lowerFrom]
  | cons d cs ih =>
    intro c hc
    simp only [lowerFrom, List.mem_append] at hc
    rcases hc with hhere | hrest
    · split at hhere
      · rw [List.mem_singleton.mp hhere, sigmaForm]
        split <;> decide
      · split at hhere
        · simp only [List.mem_cons, List.not_mem_nil, or_false] at hhere
          rcases hhere with rfl | rfl <;> decide
        · rw [List.mem_singleton.mp hhere, lowerChar_lowerChar]
    · exact ih c hrest

@[simp] theorem lower_lower (s : String) : lower (lower s) = lower s := by
  apply String.toList_injective
  rw [lower, String.toList_ofList, lowerFrom_eq_self]
  rw [lower, String.toList_ofList]
  exact lowerChar_of_mem_lowerFrom

/-- One letter, the dotted capital I, becomes longer. -/
theorem length_lowerFrom (before cs : List Char) :
    (lowerFrom before cs).length = cs.length + cs.count 'İ' := by
  induction cs generalizing before with
  | nil => rfl
  | cons c cs ih =>
    simp only [lowerFrom, List.length_append, ih, List.length_cons, List.count_cons]
    by_cases hsigma : c = 'Σ'
    · subst hsigma
      simp
      omega
    · by_cases hdotted : c = 'İ' <;> simp [hsigma, hdotted] <;> omega

theorem length_lower (s : String) : (lower s).length = s.length + s.toList.count 'İ' := by
  rw [← String.length_toList, lower, String.toList_ofList, length_lowerFrom, String.length_toList]

theorem lower_ne_empty {s : String} (h : s.length ≠ 0) : lower s ≠ "" := by
  intro hempty
  have hlength := length_lower s
  rw [hempty] at hlength
  simp at hlength
  omega

end FileShare.Text

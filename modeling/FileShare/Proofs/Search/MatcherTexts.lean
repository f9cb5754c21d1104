import FileShare.Matcher.Compile
import FileShare.Proofs.Outcome
import FileShare.Proofs.Reading.JsonText
import FileShare.Proofs.Reading.Patterns
import Mathlib

/-! # Matchers from untrusted texts

Whatever the two texts of a matcher hold, they make up a matcher or are rejected with one of the
codes for matchers, unless they go beyond what the readers under the checks can take: an integer of
too many digits, or a pattern that is refused for another reason than its form.
-/
namespace FileShare

/-- The rejection carries one of the codes for matchers. -/
@[simp] def Rejection.ConcernsMatcher (cause : Rejection) : Prop :=
  cause.reason? ∈ [some "unknown-specifier", some "invalid-matcher-shape",
    some "too-many-items-requested"]

/-- The breakdown that a refused pattern leads to; a malformed one is rejected. -/
def Pattern.Refusal.breakdown? : Pattern.Refusal → Option Breakdown
  | .malformed => none
  | .repetitionTooLarge => some .repetitionTooLarge
  | .numberTooLong => some .numberTooLong
  | .conflictingAlphabets => some .conflictingAlphabets

namespace Matcher

/-- The matcher of two texts, of which each may be missing. -/
def ofTexts (limits : Settings) (equality patterns : Option String) : Except Failure Matcher := do
  let first ← readText "match" equality
  let second ← readText "regexMatch" patterns
  compile limits first second

/-- The tokens of the pattern in an entry; patterns on names are put in lower case first. -/
def patternTokens (key source : RawText) : List Pattern.Token :=
  Pattern.tokens (if key = .text "name" then source.lower else source).points

/-- The pattern has what a refusal speaks of that leads to the breakdown. -/
def PatternBreaks (source : List Pattern.Token) (cause : Breakdown) : Prop :=
  ∃ refusal, Pattern.RefusedBy source refusal ∧ refusal.breakdown? = some cause

/-- What the texts have where reading or checking them breaks down. -/
inductive Overstrains (equality patterns : Option String) : Breakdown → Prop where
  | longInteger {raw : String} (text : equality = some raw ∨ patterns = some raw)
      (long : Json.HasLongInteger (RawText.text raw).points) :
      Overstrains equality patterns .numberTooLong
  | pattern {raw : String} {key source : RawText} {entries : Json.Object} {cause : Breakdown}
      (text : patterns = some raw) (read : Json.read raw = .ok (.obj entries))
      (entry : (key, .ofText source) ∈ entries)
      (breaks : PatternBreaks (patternTokens key source) cause) :
      Overstrains equality patterns cause

/-- A matcher is rejected with one of its codes or breaks down in one of the given ways. -/
def RejectedOr (breaks : Breakdown → Prop) : Failure → Prop
  | .rejected cause => cause.ConcernsMatcher
  | .broken cause => breaks cause

abbrev Rejected : Failure → Prop := RejectedOr fun _ => False

theorem RejectedOr.mono {B B' : Breakdown → Prop} (h : ∀ cause, B cause → B' cause) (f : Failure)
    (hf : RejectedOr B f) : RejectedOr B' f := by
  cases f with
  | rejected cause => exact hf
  | broken cause => exact h cause hf

theorem RejectedOr.of_rejected {B : Breakdown → Prop} : ∀ f, Rejected f → RejectedOr B f :=
  mono fun _ => False.elim

variable {limits : Settings} {claimed : Bool} {field name : String} {symbol key grantee : RawText}
  {v : Json}

open Outcome

/-! ## Entries for equality -/

theorem operand_fails (index : Nat) : FailsOnly (operand field index v) Rejected := by
  unfold operand
  split
  · split
    · simp [RejectedOr, Rejection.reason?]
    · split <;> simp [RejectedOr, Rejection.reason?]
  · simp [RejectedOr, Rejection.reason?]
  · simp [RejectedOr, Rejection.reason?]

theorem operands_fails : FailsOnly (operands field v) Rejected := by
  unfold operands
  split
  · exact (operand_fails 0).bind fun _ _ => (operand_fails 1).bind fun _ _ => failsOnly_pure _
  · simp [RejectedOr, Rejection.reason?]

theorem condition_fails : FailsOnly (condition field symbol v) Rejected := by
  unfold condition
  split
  · exact operands_fails.bind fun _ _ => failsOnly_pure _
  · split
    · simp [RejectedOr, Rejection.reason?]
    · split <;> simp [RejectedOr, Rejection.reason?]

theorem conditions_fails (entries : Json.Object) :
    FailsOnly (conditions field entries) Rejected := by
  induction entries with
  | nil => exact failsOnly_ok _
  | cons entry rest ih =>
    exact condition_fails.bind fun _ _ => ih.bind fun _ _ => failsOnly_pure _

theorem tagEntry_fails : FailsOnly (tagEntry limits v) Rejected := by
  unfold tagEntry
  split
  · split
    · simp [RejectedOr, Rejection.reason?]
    · split <;> simp [RejectedOr, Rejection.reason?]
  · simp [RejectedOr, Rejection.reason?]

theorem claim_fails : FailsOnly (claim limits claimed key grantee) Rejected := by
  unfold claim
  split
  · simp [RejectedOr, Rejection.reason?]
  · split
    · split <;> simp [RejectedOr, Rejection.reason?]
    · simp [RejectedOr, Rejection.reason?]

theorem grantEntry_fails : FailsOnly (grantEntry key name v) Rejected := by
  unfold grantEntry
  split
  · split <;> simp [RejectedOr, Rejection.reason?]
  · simp [RejectedOr, Rejection.reason?]

theorem fieldEntry_fails : FailsOnly (fieldEntry field v) Rejected := by
  unfold fieldEntry
  split
  · refine (conditions_fails _).bind fun part _ => ?_
    split <;> simp [RejectedOr, Rejection.reason?]
  · split <;> simp [RejectedOr, Rejection.reason?]

theorem equalityEntry_fails : FailsOnly (equalityEntry limits claimed key v) Rejected := by
  unfold equalityEntry
  split
  · exact tagEntry_fails
  · split
    · simp [RejectedOr, Rejection.reason?]
    · split
      · exact claim_fails.bind fun _ _ => grantEntry_fails
      · split
        · exact fieldEntry_fails
        · simp [RejectedOr, Rejection.reason?]

/-! ## Entries for patterns -/

theorem readPattern_refused {source : RawText} {refusal : Pattern.Refusal}
    (h : readPattern source = .error refusal) :
    Pattern.RefusedBy (Pattern.tokens source.points) refusal :=
  Pattern.refusedBy_of_ofText rfl h

theorem checkPattern_fails {source : RawText} :
    FailsOnly (checkPattern key source)
      (RejectedOr (PatternBreaks (Pattern.tokens source.points))) := by
  unfold checkPattern
  split
  · simp [RejectedOr, Rejection.reason?]
  · split
    · exact failsOnly_ok _
    · simp [RejectedOr, Rejection.reason?]
    all_goals
      rename_i hrefused
      rw [failsOnly_breakDown]
      exact ⟨_, readPattern_refused hrefused, rfl⟩

/-- The value of an entry is a pattern that leads to the breakdown. -/
def EntryBreaks (key : RawText) (value : Json) (cause : Breakdown) : Prop :=
  ∃ source, value = .ofText source ∧ PatternBreaks (patternTokens key source) cause

theorem patternSource_fails : FailsOnly (patternSource key v) (RejectedOr (EntryBreaks key v)) := by
  unfold patternSource
  split
  · rename_i source hsource
    refine FailsOnly.bind (checkPattern_fails.mono ?_) fun _ _ => failsOnly_pure _
    exact RejectedOr.mono fun _ hbreaks => ⟨source, Json.text?_eq_some.mp hsource, hbreaks⟩
  · simp [RejectedOr, Rejection.reason?]

theorem patternEntry_fails :
    FailsOnly (patternEntry limits claimed key v) (RejectedOr (EntryBreaks key v)) := by
  unfold patternEntry
  split
  · simp [RejectedOr, Rejection.reason?]
  · split
    · exact (claim_fails.mono RejectedOr.of_rejected).bind fun _ _ =>
        patternSource_fails.bind fun _ _ => failsOnly_pure _
    · split
      · exact patternSource_fails.bind fun _ _ => failsOnly_pure _
      · simp [RejectedOr, Rejection.reason?]

/-! ## Whole matchers -/

theorem entries_fails {check : Bool → RawText → Json → Except Failure Part} {P : Failure → Prop}
    {o : Json.Object} (claimed : Bool)
    (h : ∀ claimed, ∀ e ∈ o, FailsOnly (check claimed e.1 e.2) P) :
    FailsOnly (entries check claimed o) P := by
  induction o generalizing claimed with
  | nil => exact failsOnly_ok _
  | cons entry rest ih =>
    obtain ⟨key, value⟩ := entry
    refine (h claimed (key, value) List.mem_cons_self).bind fun part _ => ?_
    have hrest := ih (claimed || part.claims) fun claimed e he =>
      h claimed e (List.mem_cons_of_mem _ he)
    exact hrest.bind fun _ _ => failsOnly_pure _

theorem entriesOf_fails {name : String} : FailsOnly (entriesOf name v) Rejected := by
  unfold entriesOf
  split <;> simp [RejectedOr, Rejection.reason?]

theorem entriesOf_eq_ok {name : String} {o : Json.Object} (h : entriesOf name v = .ok o) :
    v = .null ∧ o = [] ∨ v = .obj o := by
  unfold entriesOf at h
  split at h <;> simp_all

theorem exists_read_of_readText {name : String} {text : Option String}
    (h : readText name text = .ok v) (hv : v ≠ .null) :
    ∃ raw, text = some raw ∧ Json.read raw = .ok v := by
  unfold readText at h
  split at h
  · cases h
    exact absurd rfl hv
  · cases h
    exact absurd rfl hv
  · split at h
    · cases h
      exact ⟨_, rfl, ‹_›⟩
    · simp at h
    · simp at h

variable {equality patterns : Option String}

theorem readText_fails {name : String} {text : Option String}
    (h : text = equality ∨ text = patterns) :
    FailsOnly (readText name text) (RejectedOr (Overstrains equality patterns)) := by
  unfold readText
  split
  · simp
  · simp
  · split
    · simp
    · simp [RejectedOr, Rejection.reason?]
    · rename_i raw _ hread
      rw [failsOnly_breakDown]
      exact .longInteger (h.imp Eq.symm Eq.symm) (Json.hasLongInteger_of_read hread)

/-- Two texts fail to make up a matcher by a rejection or by what overstrains the readers. -/
theorem ofTexts_fails : FailsOnly (ofTexts limits equality patterns)
    (RejectedOr (Overstrains equality patterns)) := by
  refine (readText_fails (.inl rfl)).bind fun first _ => ?_
  refine (readText_fails (.inr rfl)).bind fun second hsecond => ?_
  refine (entriesOf_fails.mono RejectedOr.of_rejected).bind fun o _ => ?_
  refine (entriesOf_fails.mono RejectedOr.of_rejected).bind fun o' ho' => ?_
  have hequality : ∀ claimed, ∀ e ∈ o, FailsOnly (equalityEntry limits claimed e.1 e.2)
      (RejectedOr (Overstrains equality patterns)) :=
    fun _ _ _ => equalityEntry_fails.mono RejectedOr.of_rejected
  refine (entries_fails _ hequality).bind fun part _ => ?_
  have hpatterns : ∀ claimed, ∀ e ∈ o', FailsOnly (patternEntry limits claimed e.1 e.2)
      (RejectedOr (Overstrains equality patterns)) := by
    refine fun claimed e he => patternEntry_fails.mono (RejectedOr.mono fun cause hbreaks => ?_)
    obtain ⟨source, hvalue, hbreaks⟩ := hbreaks
    rcases entriesOf_eq_ok ho' with ⟨-, rfl⟩ | rfl
    · cases he
    · obtain ⟨raw, htext, hread⟩ := exists_read_of_readText hsecond (by simp)
      exact .pattern htext hread (hvalue ▸ he) hbreaks
  exact (entries_fails _ hpatterns).bind fun _ _ => failsOnly_pure _

end Matcher
end FileShare

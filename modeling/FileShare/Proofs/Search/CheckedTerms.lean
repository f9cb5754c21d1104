import FileShare.Matcher.Compile
import FileShare.Proofs.Outcome

/-! # What a checked matcher consists of

A matcher that was checked holds terms on known fields only, compares with finite numbers by known
operators, and searches texts with patterns that can be read. The checks of single entries are
followed in the order in which they are made; nothing is assumed about the untrusted values.
-/
namespace FileShare
open Outcome

/-- The terms that a check lets through. -/
inductive Term.Checked : Term → Prop
  | equals {field : String} {value : Json}
      (hf : field ∈ Matcher.equalityFields.map Matcher.innerField)
      (hv : Matcher.isScalar value) : Checked (.equals field value)
  | range {field operator : String} {bound : Number}
      (hf : field ∈ Matcher.equalityFields.map Matcher.innerField)
      (ho : (Comparison.ofSymbol? operator).isSome) (hb : bound.isFinite) :
      Checked (.range field operator bound)
  | anyOf (values : List RawText) : Checked (.anyOf "tags" values)
  | fits {field : String} {source : RawText}
      (hf : field ∈ Matcher.patternFields.map Matcher.innerField)
      (hs : ∃ p, Matcher.readPattern source = .ok p) : Checked (.fits field source)
  | granted (grantee level : String) : Checked (.granted grantee level)
  | grantFits (grantee : String) {source : RawText}
      (hs : ∃ p, Matcher.readPattern source = .ok p) : Checked (.grantFits grantee source)

namespace Matcher

def Part.Checked (p : Part) : Prop :=
  (∀ e ∈ p.terms, e.Checked) ∧ ∀ e ∈ p.alternatives, e.Checked

theorem Part.checked_empty : Part.Checked {} := by simp [Part.Checked]

theorem Part.Checked.append {p q : Part} (hp : p.Checked) (hq : q.Checked) :
    (p.append q).Checked := by
  constructor
  · intro e he
    rcases List.mem_append.mp he with he | he
    · exact hp.1 e he
    · exact hq.1 e he
  · intro e he
    rcases List.mem_append.mp he with he | he
    · exact hp.2 e he
    · exact hq.2 e he

theorem Part.checked_term {e : Term} (he : e.Checked) (claims : Bool) :
    Part.Checked { terms := [e], claims } := by
  simp [Part.Checked, he]

theorem isFinite_of_finiteNumber? {v : Json} {n : Number} (h : finiteNumber? v = some n) :
    n.isFinite := by
  unfold finiteNumber? at h
  split at h
  · split at h
    · cases h
      assumption
    · cases h
  · cases h

/-! ## Conditions on a field -/

section Conditions
variable {field : String} (hf : field ∈ equalityFields.map innerField)
include hf

theorem operand_checked {index : Nat} {v : Json} {e : Term}
    (h : operand field index v = .ok e) : e.Checked := by
  unfold operand at h
  split at h
  · rename_i symbol value
    cases hs : Comparison.ofSymbol? symbol with
    | none => simp [hs] at h
    | some how =>
      cases hn : finiteNumber? value with
      | none => simp [hs, hn] at h
      | some n =>
        simp only [hs, hn, Except.ok.injEq] at h
        subst h
        exact .range hf (by simp) (isFinite_of_finiteNumber? hn)
  · simp at h
  · simp at h

theorem operands_checked {v : Json} {es : List Term} (h : operands field v = .ok es) :
    ∀ e ∈ es, e.Checked := by
  unfold operands at h
  split at h
  · rename_i a b
    simp only [bind_eq_ok, pure_eq_ok] at h
    obtain ⟨first, hfirst, second, hsecond, rfl⟩ := h
    intro e he
    simp only [List.mem_cons, List.not_mem_nil, or_false] at he
    rcases he with rfl | rfl
    · exact operand_checked hf hfirst
    · exact operand_checked hf hsecond
  · simp at h

theorem condition_checked {symbol : RawText} {value : Json} {p : Part}
    (h : condition field symbol value = .ok p) : p.Checked := by
  unfold condition at h
  split at h
  · simp only [bind_eq_ok, pure_eq_ok] at h
    obtain ⟨es, hes, rfl⟩ := h
    exact ⟨by simp, operands_checked hf hes⟩
  · cases hs : Comparison.ofSymbol? symbol with
    | none => simp [hs] at h
    | some how =>
      cases hn : finiteNumber? value with
      | none => simp [hs, hn] at h
      | some n =>
        simp only [hs, hn, Except.ok.injEq] at h
        subst h
        exact Part.checked_term (.range hf (by simp) (isFinite_of_finiteNumber? hn)) false

theorem conditions_checked {entries : Json.Object} {p : Part}
    (h : conditions field entries = .ok p) : p.Checked := by
  induction entries generalizing p with
  | nil =>
    cases h
    exact Part.checked_empty
  | cons entry rest ih =>
    obtain ⟨symbol, value⟩ := entry
    simp only [conditions, bind_eq_ok, pure_eq_ok] at h
    obtain ⟨part, hpart, more, hmore, rfl⟩ := h
    exact (condition_checked hf hpart).append (ih hmore)

end Conditions

/-! ## Entries -/

theorem tagEntry_checked {limits : Settings} {v : Json} {p : Part}
    (h : tagEntry limits v = .ok p) : p.Checked := by
  unfold tagEntry at h
  split at h
  · split at h
    · simp at h
    · split at h
      · simp at h
      · cases h
        exact Part.checked_term (.anyOf _) false
  · simp at h

theorem grantEntry_checked {key : RawText} {grantee : String} {v : Json} {p : Part}
    (h : grantEntry key grantee v = .ok p) : p.Checked := by
  unfold grantEntry at h
  split at h
  · split at h
    · cases h
      exact Part.checked_term (.granted grantee _) true
    · simp at h
  · simp at h

theorem isScalar_lowerName (key : String) {v : Json} (h : isScalar v) :
    isScalar (lowerName key v) := by
  unfold lowerName
  split
  · split
    · rename_i t _
      cases t.lower <;> rfl
    · exact h
  · exact h

theorem knownField?_eq_some {fields : List String} {key : RawText} {field : String} :
    knownField? fields key = some field ↔ key = .text field ∧ field ∈ fields := by
  cases key with
  | text s =>
    simp only [knownField?, RawText.utf8?, Option.filter_some, RawText.text.injEq]
    by_cases hs : s ∈ fields
    · simp only [hs, decide_true, if_true, Option.some.injEq]
      exact ⟨fun h => ⟨h, h ▸ hs⟩, And.left⟩
    · simp only [hs, decide_false, Bool.false_eq_true, if_false, reduceCtorEq, false_iff, not_and]
      exact fun h => h ▸ hs
  | unpaired => simp [knownField?, RawText.utf8?]

theorem fieldEntry_checked {key : String} (hk : key ∈ equalityFields) {v : Json} {p : Part}
    (h : fieldEntry key v = .ok p) : p.Checked := by
  have hf := List.mem_map_of_mem (f := innerField) hk
  unfold fieldEntry at h
  split at h
  · simp only [bind_eq_ok] at h
    obtain ⟨part, hpart, h⟩ := h
    split at h
    · simp at h
    · cases h
      exact conditions_checked hf hpart
  · split at h
    · rename_i hscalar
      cases h
      exact Part.checked_term (.equals hf (isScalar_lowerName _ hscalar)) false
    · simp at h

theorem equalityEntry_checked {limits : Settings} {claimed : Bool} {key : RawText} {v : Json}
    {p : Part} (h : equalityEntry limits claimed key v = .ok p) : p.Checked := by
  unfold equalityEntry at h
  split at h
  · exact tagEntry_checked h
  · split at h
    · simp at h
    · split at h
      · simp only [bind_eq_ok] at h
        obtain ⟨_, _, h⟩ := h
        exact grantEntry_checked h
      · split at h
        · rename_i hfield
          exact fieldEntry_checked (knownField?_eq_some.mp hfield).2 h
        · simp at h

theorem checkPattern_eq_ok {key source : RawText} {u : Unit} (h : checkPattern key source = .ok u) :
    ∃ p, readPattern source = .ok p := by
  unfold checkPattern at h
  split at h
  · simp at h
  · split at h <;> simp_all

theorem patternSource_eq_ok {key source : RawText} {v : Json}
    (h : patternSource key v = .ok source) : ∃ p, readPattern source = .ok p := by
  unfold patternSource at h
  split at h
  · simp only [bind_eq_ok, pure_eq_ok] at h
    obtain ⟨_, hs, rfl⟩ := h
    exact checkPattern_eq_ok hs
  · simp at h

theorem patternEntry_checked {limits : Settings} {claimed : Bool} {key : RawText} {v : Json}
    {p : Part} (h : patternEntry limits claimed key v = .ok p) : p.Checked := by
  unfold patternEntry at h
  split at h
  · simp at h
  · split at h
    · simp only [bind_eq_ok, pure_eq_ok] at h
      obtain ⟨_, _, source, hs, rfl⟩ := h
      exact Part.checked_term (.grantFits _ (patternSource_eq_ok hs)) true
    · split at h
      · rename_i hk
        simp only [bind_eq_ok, pure_eq_ok] at h
        obtain ⟨source, hs, rfl⟩ := h
        have hk := (knownField?_eq_some.mp hk).2
        exact Part.checked_term (.fits (List.mem_map_of_mem hk) (patternSource_eq_ok hs)) false
      · simp at h

theorem entries_checked {check : Bool → RawText → Json → Except Failure Part}
    (hcheck : ∀ claimed key v p, check claimed key v = .ok p → p.Checked)
    {claimed : Bool} {o : Json.Object} {p : Part} (h : entries check claimed o = .ok p) :
    p.Checked := by
  induction o generalizing claimed p with
  | nil =>
    cases h
    exact Part.checked_empty
  | cons entry rest ih =>
    obtain ⟨key, value⟩ := entry
    simp only [entries, bind_eq_ok, pure_eq_ok] at h
    obtain ⟨part, hpart, more, hmore, rfl⟩ := h
    exact (hcheck _ _ _ _ hpart).append (ih hmore)

theorem compile_checked {limits : Settings} {equality patterns : Json} {m : Matcher}
    (h : compile limits equality patterns = .ok m) :
    (∀ e ∈ m.terms, e.Checked) ∧ ∀ e ∈ m.alternatives, e.Checked := by
  simp only [compile, bind_eq_ok, pure_eq_ok] at h
  obtain ⟨first, _, second, _, part, hpart, more, hmore, rfl⟩ := h
  have hp := entries_checked (fun _ _ _ _ => equalityEntry_checked) hpart
  have hm := entries_checked (fun _ _ _ _ => patternEntry_checked) hmore
  exact ⟨(hp.append hm).1, hp.2⟩

end Matcher
end FileShare

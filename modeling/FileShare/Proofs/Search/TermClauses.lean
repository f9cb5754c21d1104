import FileShare.Proofs.Search.Branches
import FileShare.Proofs.Search.CheckedTerms
import FileShare.Proofs.Search.Document
import Mathlib.Algebra.Order.Ring.Cast

/-! # Terms and the clauses they become

A checked term becomes a clause for each table. The clause never breaks down, compares with no
value but those of the term, and passes those rows of its table whose documents satisfy the term.
-/
namespace FileShare

/-! ## Comparison by value -/

section Values
variable {a b : Int} {p q : ℚ} (hlt : a < b ↔ p < q) (hgt : b < a ↔ q < p)
include hlt hgt

theorem eq_iff_of_lt_iff : a = b ↔ p = q := by
  constructor
  · intro h
    exact le_antisymm (not_lt.mp fun h' => (hgt.mpr h').ne h.symm)
      (not_lt.mp fun h' => (hlt.mpr h').ne h)
  · intro h
    exact le_antisymm (not_lt.mp fun h' => (hgt.mp h').ne h.symm)
      (not_lt.mp fun h' => (hlt.mp h').ne h)

theorem Comparison.holds_compare (how : Comparison) :
    how.holds (compare a b) = how.relates p q := by
  rcases lt_trichotomy a b with h | h | h
  · have hc : compare a b = .lt := compare_lt_iff_lt.mpr h
    have hpq := hlt.mp h
    cases how <;> simp [holds, relates, hc, hpq, hpq.le, hpq.not_gt, hpq.not_ge]
  · have hc : compare a b = .eq := compare_eq_iff_eq.mpr h
    have hpq := (eq_iff_of_lt_iff hlt hgt).mp h
    cases how <;> simp [holds, relates, hc, hpq]
  · have hc : compare a b = .gt := compare_gt_iff_gt.mpr h
    have hpq := hgt.mp h
    cases how <;> simp [holds, relates, hc, hpq, hpq.le, hpq.not_gt, hpq.not_ge]

theorem compare_beq_eq : (compare a b == .eq) = decide (p = q) := by
  rw [← decide_eq_decide.mpr (eq_iff_of_lt_iff hlt hgt)]
  apply Bool.eq_iff_iff.mpr
  rw [beq_iff_eq, compare_eq_iff_eq, decide_eq_true_iff]

end Values

theorem Binary64.denominator_pos (x : Binary64) : 0 < x.denominator := by
  simp [denominator]

/-- A finite number stands to the integers as its value does. -/
theorem Number.compareInt?_eq {v : Number} (hv : v.isFinite) (m : Int) :
    ∃ a b : Int, v.compareInt? m = some (compare a b) ∧
      (a < b ↔ (m : ℚ) < v.value) ∧ (b < a ↔ v.value < m) := by
  cases v with
  | int k => exact ⟨m, k, rfl, by simp [value], by simp [value]⟩
  | float x =>
    have hnan : x.isNaN = false := by
      simp only [isFinite, Binary64.isFinite, decide_eq_true_eq] at hv
      simp [Binary64.isNaN, hv]
    have hden : (0 : ℚ) < x.denominator := by exact_mod_cast x.denominator_pos
    refine ⟨m * x.denominator, x.numerator, ?_, ?_, ?_⟩
    · simp only [isFinite] at hv
      simp [compareInt?, Binary64.compareInt?, hnan, hv]
    · rw [value, lt_div_iff₀ hden]
      exact_mod_cast Iff.rfl
    · rw [value, div_lt_iff₀ hden]
      exact_mod_cast Iff.rfl

namespace Query

/-! ## Fields and columns -/

def tableOf : Node → Table
  | .file _ => .files
  | .metaNode _ => .metas

def Cell.value : Cell → Document.Value
  | text s => .text s
  | number n => .number n

def Column.field : Column → String
  | kind => "type"
  | owner => "owner"
  | createdAt => "createdAt"
  | modifiedAt => "modifiedAt"
  | lowerName => lowerNameField
  | size => "size"
  | text => "text"

theorem Column.eq_field_of_ofField? {field : String} {c : Column} (h : ofField? field = some c) :
    field = c.field := by
  unfold ofField? at h
  split at h <;> cases h <;> rfl

theorem get?_document_field (n : Node) (c : Column) :
    Entries.get? n.document c.field = (cell? n c).map Cell.value := by
  cases n <;> cases c <;> rfl

theorem tableOf_has (n : Node) (c : Column) : (tableOf n).has c = (cell? n c).isSome := by
  cases n <;> cases c <;> rfl

theorem exists_column_of_mem_names {n : Node} {field : String} (hf : field ≠ "tags")
    (h : field ∈ Entries.names n.document) : ∃ c, Column.ofField? field = some c := by
  cases n <;>
    simp only [Entries.names, Node.document, List.map_cons, List.map_nil, List.mem_cons,
      List.not_mem_nil, or_false, hf] at h <;>
    rcases h with rfl | rfl | rfl | rfl | rfl | rfl | rfl <;> exact ⟨_, rfl⟩

section Columns
variable {t : Table} {n : Node} {field : String} (hn : tableOf n = t)
include hn

/-- Fields other than the tags have a column in the tables whose documents hold them. -/
theorem get?_document_of_column?_none (hf : field ≠ "tags") (h : t.column? field = none) :
    Entries.get? n.document field = none := by
  subst hn
  cases hc : Column.ofField? field with
  | none =>
    refine Entries.get?_eq_none_iff.mpr fun hmem => ?_
    obtain ⟨c, hcol⟩ := exists_column_of_mem_names hf hmem
    simp [hc] at hcol
  | some c =>
    rw [Column.eq_field_of_ofField? hc, get?_document_field]
    simpa [Table.column?, hc, tableOf_has] using h

theorem number_of_column? {c : Column} (h : t.column? field = some c) (hc : c.isNumeric = true) :
    ∃ m, cell? n c = some (.number m) ∧ Entries.get? n.document field = some (.number m) := by
  subst hn
  obtain ⟨hfield, hhas⟩ := Option.filter_eq_some_iff.mp h
  rw [Column.eq_field_of_ofField? hfield, get?_document_field]
  rw [tableOf_has] at hhas
  cases n <;> cases c <;> simp_all [cell?, Column.isNumeric, Cell.value]

theorem text_of_column? {c : Column} (h : t.column? field = some c) (hc : c.isNumeric = false) :
    ∃ s, cell? n c = some (.text s) ∧ Entries.get? n.document field = some (.text s) := by
  subst hn
  obtain ⟨hfield, hhas⟩ := Option.filter_eq_some_iff.mp h
  rw [Column.eq_field_of_ofField? hfield, get?_document_field]
  rw [tableOf_has] at hhas
  cases n <;> cases c <;> simp_all [cell?, Column.isNumeric, Cell.value]

end Columns

/-! ## Tests on cells -/

theorem numberIs_passes {n : Node} {c : Column} {m : Int} (hc : cell? n c = some (.number m))
    {v : Number} (hv : v.isFinite) :
    (Test.numberIs c v).passes n = decide ((m : ℚ) = v.value) := by
  obtain ⟨a, b, hab, hlt, hgt⟩ := Number.compareInt?_eq hv m
  have heq := compare_beq_eq hlt hgt
  simpa [Test.passes, Test.holds, hc, hab, Except.toOption] using heq

theorem compares_passes {n : Node} {c : Column} {m : Int} (hc : cell? n c = some (.number m))
    (how : Comparison) {v : Number} (hv : v.isFinite) :
    (Test.compares c how v).passes n = how.relates m v.value := by
  obtain ⟨a, b, hab, hlt, hgt⟩ := Number.compareInt?_eq hv m
  simpa [Test.passes, Test.holds, hc, hab, Except.toOption] using
    Comparison.holds_compare hlt hgt how

theorem numberIs_answers (c : Column) (v : Number) : (Test.numberIs c v).Answers := by
  intro n
  simp only [Test.holds]
  split <;> rfl

theorem textIs_answers (c : Column) (t : RawText) : (Test.textIs c t).Answers := by
  intro n
  simp only [Test.holds]
  split <;> rfl

theorem compares_answers (c : Column) (how : Comparison) (v : Number) :
    (Test.compares c how v).Answers := by
  intro n
  simp only [Test.holds]
  split <;> rfl

/-! ## Clauses of terms -/

def Parameter.IsOf (e : Term) : Parameter → Prop
  | .number v => e.number? = some v
  | .text t => t ∈ e.texts

/-- The clause says of the rows of a table what the term says of their documents. -/
structure Reads (t : Table) (e : Term) (c : Clause) : Prop where
  truth : ∀ n, tableOf n = t → c.passes n = e.holds n
  answers : c.Every Test.Answers
  parameters : c.Every fun u => ∀ x ∈ u.parameters, x.IsOf e

theorem every_of_ne_test {P : Test → Prop} {c : Clause} (h : ∀ t, c ≠ .test t) : c.Every P :=
  fun t ht => absurd ht (h t)

theorem every_test {P : Test → Prop} {t : Test} (h : P t) : (Clause.test t).Every P := by
  rintro u hu
  cases hu
  exact h

theorem reads_never {t : Table} {e : Term} (h : ∀ n, tableOf n = t → e.holds n = false) :
    Reads t e .never where
  truth n hn := (h n hn).symm
  answers := every_of_ne_test (by simp)
  parameters := every_of_ne_test (by simp)

theorem reads_test {t : Table} {e : Term} {u : Test}
    (truth : ∀ n, tableOf n = t → u.passes n = e.holds n) (answers : u.Answers)
    (parameters : ∀ x ∈ u.parameters, x.IsOf e) : Reads t e (.test u) where
  truth := truth
  answers := every_test answers
  parameters := every_test parameters

theorem ne_tags_of_mem {field : String}
    (hf : field ∈ Matcher.equalityFields.map Matcher.innerField) : field ≠ "tags" := by
  rintro rfl
  revert hf
  decide

theorem equalityClause_reads_of_none {t : Table} {field : String} (hf : field ≠ "tags")
    (hc : t.column? field = none) (value : Json) :
    Reads t (.equals field value) (equalityClause t field value) := by
  have hget : ∀ n, tableOf n = t → Entries.get? n.document field = none :=
    fun n hn => get?_document_of_column?_none hn hf hc
  cases value with
  | null =>
    simp only [equalityClause, hc]
    exact ⟨fun n hn => by simp [Clause.passes, Term.holds, hget n hn],
      every_of_ne_test (by simp), every_of_ne_test (by simp)⟩
  | _ =>
    simp only [equalityClause, hc]
    exact reads_never fun n hn => by simp [Term.holds, hget n hn]

theorem equalityClause_reads_of_numeric {t : Table} {field : String} {c : Column}
    (hc : t.column? field = some c) (hnum : c.isNumeric = true) {value : Json}
    (hv : Matcher.isScalar value) :
    Reads t (.equals field value) (equalityClause t field value) := by
  have hcell := fun n (hn : tableOf n = t) => number_of_column? hn hc hnum
  cases value with
  | null =>
    simp only [equalityClause, hc]
    refine reads_test (fun n hn => ?_) (fun _ => rfl) (by simp [Test.parameters])
    obtain ⟨m, hm, hget⟩ := hcell n hn
    simp [Test.passes, Test.holds, Except.toOption, Term.holds, hm, hget]
  | num v =>
    simp only [equalityClause, hc, hnum, ↓reduceIte]
    refine reads_test (fun n hn => ?_) (numberIs_answers c v)
      (by simp [Test.parameters, Parameter.IsOf, Term.number?])
    obtain ⟨m, hm, hget⟩ := hcell n hn
    rw [numberIs_passes hm hv]
    simp [Term.holds, hget, Document.Value.agrees]
  | str | unpaired =>
    simp only [equalityClause, hc, Json.text?, hnum, ↓reduceIte]
    refine reads_never fun n hn => ?_
    obtain ⟨m, _, hget⟩ := hcell n hn
    simp [Term.holds, hget, Document.Value.agrees]
  | bool | arr | obj =>
    simp only [equalityClause, hc, Json.text?]
    refine reads_never fun n hn => ?_
    obtain ⟨m, _, hget⟩ := hcell n hn
    simp [Term.holds, hget, Document.Value.agrees]

theorem equalityClause_reads_of_text {t : Table} {field : String} {c : Column}
    (hc : t.column? field = some c) (htext : c.isNumeric = false) (value : Json) :
    Reads t (.equals field value) (equalityClause t field value) := by
  have hcell := fun n (hn : tableOf n = t) => text_of_column? hn hc htext
  cases value with
  | null =>
    simp only [equalityClause, hc]
    refine reads_test (fun n hn => ?_) (fun _ => rfl) (by simp [Test.parameters])
    obtain ⟨s, hs, hget⟩ := hcell n hn
    simp [Test.passes, Test.holds, Except.toOption, Term.holds, hs, hget]
  | num v =>
    simp only [equalityClause, hc, htext, Bool.false_eq_true, ↓reduceIte]
    refine reads_never fun n hn => ?_
    obtain ⟨s, _, hget⟩ := hcell n hn
    simp [Term.holds, hget, Document.Value.agrees]
  | str | unpaired =>
    simp only [equalityClause, hc, Json.text?, htext, Bool.false_eq_true, ↓reduceIte]
    refine reads_test (fun n hn => ?_) (textIs_answers c _)
      (by simp [Test.parameters, Parameter.IsOf, Term.texts, Json.text?])
    obtain ⟨s, hs, hget⟩ := hcell n hn
    simp [Test.passes, Test.holds, Except.toOption, Term.holds, hs, hget, Document.Value.agrees]
  | bool | arr | obj =>
    simp only [equalityClause, hc, Json.text?]
    refine reads_never fun n hn => ?_
    obtain ⟨s, _, hget⟩ := hcell n hn
    simp [Term.holds, hget, Document.Value.agrees]

theorem equalityClause_reads {field : String} {value : Json} (t : Table)
    (hf : field ∈ Matcher.equalityFields.map Matcher.innerField)
    (hv : Matcher.isScalar value) :
    Reads t (.equals field value) (equalityClause t field value) := by
  cases hc : t.column? field with
  | none => exact equalityClause_reads_of_none (ne_tags_of_mem hf) hc value
  | some c =>
    cases hnum : c.isNumeric with
    | true => exact equalityClause_reads_of_numeric hc hnum hv
    | false => exact equalityClause_reads_of_text hc hnum value

theorem rangeClause_reads {field operator : String} {bound : Number} (t : Table)
    (hf : field ∈ Matcher.equalityFields.map Matcher.innerField)
    (ho : (Comparison.ofSymbol? operator).isSome) (hb : bound.isFinite) :
    ∃ c, rangeClause t field operator bound = .ok c ∧ Reads t (.range field operator bound) c := by
  obtain ⟨how, hhow⟩ := Option.isSome_iff_exists.mp ho
  cases hc : t.column? field with
  | none =>
    refine ⟨.never, by simp [rangeClause, hc], reads_never fun n hn => ?_⟩
    simp [Term.holds, get?_document_of_column?_none hn (ne_tags_of_mem hf) hc]
  | some c =>
    cases hnum : c.isNumeric with
    | true =>
      refine ⟨.test (.compares c how bound), by simp [rangeClause, hc, hnum, hhow],
        reads_test (fun n hn => ?_) (compares_answers c how bound)
          (by simp [Test.parameters, Parameter.IsOf, Term.number?])⟩
      obtain ⟨m, hm, hget⟩ := number_of_column? hn hc hnum
      rw [compares_passes hm how hb]
      simp [Term.holds, hget, hhow]
    | false =>
      refine ⟨.never, by simp [rangeClause, hc, hnum], reads_never fun n hn => ?_⟩
      obtain ⟨s, _, hget⟩ := text_of_column? hn hc hnum
      simp [Term.holds, hget]

theorem tagClause_reads (t : Table) (values : List RawText) :
    Reads t (.anyOf "tags" values)
      (if t = .metas || values.isEmpty then .never else .test (.tagged values)) := by
  split
  · rename_i h
    refine reads_never fun n hn => ?_
    rcases Bool.or_eq_true _ _ ▸ h with h | h
    · have ht : t = .metas := by simpa using h
      subst ht
      cases n with
      | file f => cases hn
      | metaNode m => rfl
    · have hv : values = [] := by simpa using h
      subst hv
      cases n <;> simp [Term.holds, Node.document, Entries.get?, lowerNameField]
  · refine reads_test (fun n hn => ?_) (fun _ => rfl)
      (by simp [Test.parameters, Parameter.IsOf, Term.texts])
    cases n with
    | file f => rfl
    | metaNode m => rfl

theorem isNumeric_of_patternField {t : Table} {field : String} {c : Column}
    (hf : field ∈ Matcher.patternFields.map Matcher.innerField)
    (hc : t.column? field = some c) : c.isNumeric = false := by
  have hfield := Column.eq_field_of_ofField? (Option.filter_eq_some_iff.mp hc).1
  subst hfield
  revert hf
  cases c <;> decide

/-- A pattern that can be read is searched for in texts only. -/
theorem fits_reads {t : Table} {field : String} {source : RawText} {c : Column} {p : Pattern}
    (hf : field ∈ Matcher.patternFields.map Matcher.innerField)
    (hs : Matcher.readPattern source = .ok p) (hc : t.column? field = some c) :
    Reads t (.fits field source) (.test (.fits c source)) := by
  have hnum := isNumeric_of_patternField hf hc
  refine reads_test (fun n hn => ?_) (fun n => ?_)
    (by simp [Test.parameters, Parameter.IsOf, Term.texts])
  · obtain ⟨s, hcell, hget⟩ := text_of_column? hn hc hnum
    simp [Test.passes, Test.holds, search, Except.toOption, Term.holds, hcell, hget, hs]
  · have hcell : ∀ m, cell? n c ≠ some (.number m) := by
      intro m
      cases n <;> cases c <;> simp_all [cell?, Column.isNumeric]
    simp only [Test.holds, search, hs]
    split <;> simp_all [Except.isOk, Except.toBool]

theorem grantFits_reads (t : Table) (grantee : String) {source : RawText} {p : Pattern}
    (hs : Matcher.readPattern source = .ok p) :
    Reads t (.grantFits grantee source) (.test (.grantFits grantee source)) := by
  refine reads_test (fun n _ => ?_) (fun n => ?_)
    (by simp [Test.parameters, Parameter.IsOf, Term.texts])
  · cases hg : Entries.get? n.permissions grantee <;>
      simp [Test.passes, Test.holds, search, Except.toOption, Term.holds, hg, hs]
  · simp only [Test.holds, search, hs]
    split <;> rfl

theorem granted_reads (t : Table) (grantee level : String) :
    Reads t (.granted grantee level) (.test (.granted grantee level)) := by
  refine reads_test (fun n _ => ?_) (fun _ => rfl) (by simp [Test.parameters])
  apply Bool.eq_iff_iff.mpr
  simp [Test.passes, Test.holds, Except.toOption, Term.holds]

/-- Every checked term becomes a clause that reads it. -/
theorem clause_reads (t : Table) {e : Term} (he : e.Checked) :
    ∃ c, clause t e = .ok c ∧ Reads t e c := by
  cases he with
  | equals hf hv => exact ⟨_, rfl, equalityClause_reads t hf hv⟩
  | range hf ho hb => exact rangeClause_reads t hf ho hb
  | anyOf values => exact ⟨_, rfl, tagClause_reads t values⟩
  | @fits field source hf hs =>
    obtain ⟨p, hp⟩ := hs
    cases hc : t.column? field with
    | none =>
      have htags : field ≠ "tags" := by
        rintro rfl
        revert hf
        decide
      refine ⟨.never, by simp [clause, hc], reads_never fun n hn => ?_⟩
      simp [Term.holds, get?_document_of_column?_none hn htags hc]
    | some c => exact ⟨_, by simp [clause, hc], fits_reads hf hp hc⟩
  | granted grantee level => exact ⟨_, rfl, granted_reads t grantee level⟩
  | grantFits grantee hs =>
    obtain ⟨p, hp⟩ := hs
    exact ⟨_, rfl, grantFits_reads t grantee hp⟩

end Query
end FileShare

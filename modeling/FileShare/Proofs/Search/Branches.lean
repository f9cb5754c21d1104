import FileShare.Query

/-! # Branches as conditions on rows

A test may break down. Where the tests of a branch do not, running the branch is filtering by a
condition, and that condition is put together as the branch is: conjunctions from conjunctions,
groups from disjunctions.
-/
namespace FileShare.Query

/-! ## Tests that do not break down -/

/-- What a test answers; a breakdown counts as no. -/
def Test.passes (n : Node) (t : Test) : Bool := (t.holds n).toOption.getD false

def Test.Answers (t : Test) : Prop := ∀ n, (t.holds n).isOk

theorem Test.Answers.holds_eq {t : Test} (ht : t.Answers) (n : Node) :
    t.holds n = .ok (t.passes n) := by
  have h := ht n
  unfold Test.passes
  cases hb : t.holds n with
  | error e => simp [hb, Except.isOk, Except.toBool] at h
  | ok b => rfl

/-- A condition holds of the test that a clause is, if it is one. -/
def Clause.Every (P : Test → Prop) (c : Clause) : Prop := ∀ t, c = .test t → P t

/-- A condition holds of all tests of a branch. -/
def Branch.Every (P : Test → Prop) (b : Branch) : Prop := ∀ cs ∈ b, ∀ c ∈ cs, ∀ t ∈ c.tests, P t

def Clause.passes (n : Node) : Clause → Bool
  | always => true
  | never => false
  | test t => t.passes n

def Criterion.passes (n : Node) (c : Criterion) : Bool := c.tests.any (·.passes n)

def Branch.passes (n : Node) (b : Branch) : Bool := b.any fun cs => cs.all (·.passes n)

theorem anyHolds_eq {ts : List Test} (h : ∀ t ∈ ts, t.Answers) (n : Node) :
    Criterion.anyHolds n ts = .ok (ts.any (·.passes n)) := by
  induction ts with
  | nil => rfl
  | cons t rest ih =>
    obtain ⟨ht, hrest⟩ := List.forall_mem_cons.mp h
    rw [Criterion.anyHolds, ht.holds_eq n, ih hrest]
    cases ht : t.passes n <;> simp [ht] <;> rfl

theorem Criterion.holds_eq {c : Criterion} (h : ∀ t ∈ c.tests, t.Answers) (n : Node) :
    c.holds n = .ok (c.passes n) := by
  cases c with
  | test t =>
    have ht : t.Answers := h t (by simp [Criterion.tests])
    simp [Criterion.holds, Criterion.passes, Criterion.tests, ht.holds_eq n]
  | someOf ts => exact anyHolds_eq h n

theorem allHold_eq {cs : List Criterion} (h : ∀ c ∈ cs, ∀ t ∈ c.tests, t.Answers) (n : Node) :
    allHold n cs = .ok (cs.all (·.passes n)) := by
  induction cs with
  | nil => rfl
  | cons c rest ih =>
    obtain ⟨hc, hrest⟩ := List.forall_mem_cons.mp h
    rw [allHold, Criterion.holds_eq hc n, ih hrest]
    cases hc : c.passes n <;> simp [hc] <;> rfl

theorem select_eq {cs : List Criterion} (h : ∀ c ∈ cs, ∀ t ∈ c.tests, t.Answers)
    (ns : List Node) : select cs ns = .ok (ns.filter fun n => cs.all (·.passes n)) := by
  induction ns with
  | nil => rfl
  | cons n rest ih =>
    rw [select, allHold_eq h n, ih]
    cases hn : cs.all (·.passes n) <;> simp [hn] <;> rfl

/-! ## Conjunctions and groups -/

section Reading
variable {P : Test → Prop} {cs : List Clause}

theorem conjunction_passes (n : Node) (cs : List Clause) :
    (conjunction cs).passes n = cs.all (·.passes n) := by
  induction cs with
  | nil => rfl
  | cons c rest ih =>
    cases c with
    | always => simpa [conjunction, Clause.passes] using ih
    | never => simp [conjunction, Clause.passes, Branch.passes]
    | test t =>
      rw [List.all_cons, ← ih]
      cases hr : conjunction rest <;>
        simp [conjunction, hr, Branch.passes, Clause.passes, Criterion.passes, Criterion.tests]

theorem conjunction_every (h : ∀ c ∈ cs, c.Every P) : (conjunction cs).Every P := by
  induction cs with
  | nil => simp [conjunction, Branch.Every]
  | cons c rest ih =>
    obtain ⟨hc, hrest⟩ := List.forall_mem_cons.mp h
    cases c with
    | always => exact ih hrest
    | never => simp [conjunction, Branch.Every]
    | test t =>
      intro criteria hcriteria
      simp only [conjunction, Option.mem_def, Option.map_eq_some_iff] at hcriteria
      obtain ⟨more, hmore, rfl⟩ := hcriteria
      intro criterion hcriterion u hu
      rcases List.mem_cons.mp hcriterion with rfl | hcriterion
      · simp only [Criterion.tests, List.mem_singleton] at hu
        exact hu ▸ hc t rfl
      · exact ih hrest more hmore criterion hcriterion u hu

theorem any_passes_eq (n : Node) (h : cs.any Clause.isAlways = false) :
    cs.any (·.passes n) = (cs.filterMap Clause.test?).any (·.passes n) := by
  induction cs with
  | nil => rfl
  | cons c rest ih =>
    simp only [List.any_cons, Bool.or_eq_false_iff] at h
    cases c with
    | always => simp [Clause.isAlways] at h
    | never => simpa [Clause.passes, Clause.test?] using ih h.2
    | test t => simpa [Clause.passes, Clause.test?] using congrArg (t.passes n || ·) (ih h.2)

theorem disjunction_passes (n : Node) (hcs : cs ≠ []) :
    (disjunction cs).passes n = cs.any (·.passes n) := by
  have hne : cs.isEmpty = false := by simpa using hcs
  cases hany : cs.any Clause.isAlways with
  | true =>
    obtain ⟨c, hc, hcb⟩ := List.any_eq_true.mp hany
    have hpass : c.passes n = true := by cases c <;> simp_all [Clause.passes, Clause.isAlways]
    rw [List.any_eq_true.mpr ⟨c, hc, hpass⟩]
    simp only [disjunction, hany, Bool.or_true, ↓reduceIte]
    rfl
  | false =>
    rw [any_passes_eq n hany]
    simp only [disjunction, hne, hany, Bool.or_self, Bool.false_eq_true, ↓reduceIte]
    cases hts : cs.filterMap Clause.test? with
    | nil => rfl
    | cons t ts => simp [Branch.passes, Criterion.passes, Criterion.tests]

theorem disjunction_every (h : ∀ c ∈ cs, c.Every P) : (disjunction cs).Every P := by
  have htests : ∀ t ∈ cs.filterMap Clause.test?, P t := by
    intro t ht
    obtain ⟨c, hc, hct⟩ := List.mem_filterMap.mp ht
    cases c with
    | test u => exact h _ hc t (congrArg Clause.test (Option.some.inj hct))
    | always => cases hct
    | never => cases hct
  intro criteria hcriteria criterion hcriterion t ht
  simp only [disjunction] at hcriteria
  split at hcriteria
  · cases hcriteria
    simp at hcriterion
  · split at hcriteria
    · cases hcriteria
    · cases hcriteria
      simp only [List.mem_singleton] at hcriterion
      subst hcriterion
      exact htests t ht

theorem both_passes (n : Node) (a b : Branch) :
    (both a b).passes n = (a.passes n && b.passes n) := by
  cases a <;> cases b <;> simp [both, Branch.passes]

theorem both_every {a b : Branch} (ha : a.Every P) (hb : b.Every P) : (both a b).Every P := by
  intro criteria hcriteria criterion hcriterion t ht
  simp only [both, Option.mem_def, Option.bind_eq_bind, Option.bind_eq_some_iff, Option.pure_def,
    Option.some.injEq] at hcriteria
  obtain ⟨first, hfirst, second, hsecond, rfl⟩ := hcriteria
  rcases List.mem_append.mp hcriterion with hc | hc
  · exact ha first hfirst criterion hc t ht
  · exact hb second hsecond criterion hc t ht

end Reading

theorem bindable_of_every {b : Branch}
    (h : b.Every fun t => ∀ x ∈ t.parameters, x.fault? = none) :
    ∀ x ∈ branchParameters b, x.fault? = none := by
  cases b with
  | none => simp [branchParameters]
  | some criteria =>
    intro x hx
    simp only [branchParameters, Option.getD_some, List.mem_flatMap] at hx
    obtain ⟨c, hc, t, ht, hx⟩ := hx
    exact h criteria rfl c hc t ht x hx

theorem Plan.fault?_eq_none {p : Plan} :
    p.fault? = none ↔ ∀ x ∈ p.parameters, x.fault? = none :=
  List.findSome?_eq_none_iff

end FileShare.Query

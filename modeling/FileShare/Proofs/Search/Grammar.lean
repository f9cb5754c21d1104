import FileShare.Proofs.Search.MatcherTexts
import FileShare.Proofs.Search.Splits

/-! # The grammar of matchers

What a pair of values has to look like to make up a matcher, and the matcher that it makes up. The
grammar relates each entry to what it contributes; the checks accept an entry exactly if the grammar
does, and contribute the same. Entries are read by themselves, so a matcher follows the grammar if
its entries do and at most one of them, in both values together, is on a grant.
-/
namespace FileShare
open Outcome

namespace Matcher

/-- A comparison with a finite number. -/
inductive Bound (field : String) : RawText × Json → Term → Prop
  | intro (how : Comparison) {n : Number} (finite : n.isFinite) :
      Bound field (.text how.symbol, .num n) (.range field how.symbol n)

/-- A condition on a field is a bound, or a choice between two bounds. -/
inductive Condition (field : String) : RawText × Json → Part → Prop
  | bound {c : RawText × Json} {t : Term} (bounds : Bound field c t) :
      Condition field c { terms := [t] }
  | choice {a b : RawText × Json} {s t : Term} (first : Bound field a s)
      (second : Bound field b t) :
      Condition field (.text "$or", .arr [.obj [a], .obj [b]]) { alternatives := [s, t] }

/-- Everyone, or a text with the form of a user name. -/
def IsGrantee (limits : Settings) (grantee : String) : Prop :=
  grantee = publicGrantee ∨ Username.isShaped limits grantee

/-- Texts about names are taken in lower case. -/
def spelled (field : String) (t : RawText) : RawText := if field = "name" then t.lower else t

/-- A value other than a text or an object that a field may be equal to. -/
inductive Plain : Json → Prop
  | null : Plain .null
  | bool (b : Bool) : Plain (.bool b)
  | num {n : Number} (finite : n.isFinite) : Plain (.num n)

/-- What a field is compared with: a value that it is equal to, or conditions. -/
inductive FieldEntry (field : String) : Json → Part → Prop
  | text (t : RawText) :
      FieldEntry field (.ofText t)
        { terms := [.equals (innerField field) (.ofText (spelled field t))] }
  | plain {v : Json} (shape : Plain v) :
      FieldEntry field v { terms := [.equals (innerField field) v] }
  | conditions {cs : Json.Object} {parts : List Part} (nonempty : cs ≠ [])
      (each : List.Forall₂ (Condition (innerField field)) cs parts) :
      FieldEntry field (.obj cs)
        { terms := parts.flatMap Part.terms, alternatives := parts.flatMap Part.alternatives }

/-- The entries of an equality matcher, with what they contribute. -/
inductive EqualityEntry (limits : Settings) : RawText × Json → Part → Prop
  | tags {tags : List RawText} (few : (tags.length : Int) ≤ limits.maxSearchableTags) :
      EqualityEntry limits (.text "tags", .arr (tags.map .ofText))
        { terms := [.anyOf "tags" (normalizeRawTags tags)] }
  | grant {grantee level : String} (known : IsGrantee limits grantee)
      (legal : level ∈ permissionLevels) :
      EqualityEntry limits (.text ("permissions." ++ grantee), .str level)
        { terms := [.granted grantee level], claims := true }
  | field {field : String} {v : Json} {p : Part} (known : field ∈ equalityFields)
      (compared : FieldEntry field v p) : EqualityEntry limits (.text field, v) p

def IsSource (source : RawText) : Prop := source ≠ .text "" ∧ ∃ p, readPattern source = .ok p

/-- The entries of a pattern matcher, with what they contribute. -/
inductive PatternEntry (limits : Settings) : RawText × Json → Part → Prop
  | grant {grantee : String} {source : RawText} (known : IsGrantee limits grantee)
      (reads : IsSource source) :
      PatternEntry limits (.text ("permissions." ++ grantee), .ofText source)
        { terms := [.grantFits grantee source], claims := true }
  | field {field : String} {source : RawText} (known : field ∈ patternFields)
      (reads : IsSource (spelled field source)) :
      PatternEntry limits (.text field, .ofText source)
        { terms := [.fits (innerField field) (spelled field source)] }

/-! ## Conditions -/

theorem finiteNumber?_eq_some {v : Json} {n : Number} :
    finiteNumber? v = some n ↔ v = .num n ∧ n.isFinite := by
  unfold finiteNumber?
  split <;> grind

theorem symbol_ne_or (how : Comparison) : RawText.text how.symbol ≠ .text "$or" := by
  cases how <;> decide

section Conditions
variable {field : String}

theorem bound_iff {c : RawText × Json} {t : Term} :
    Bound field c t ↔ ∃ how n, Comparison.ofSymbol? c.1 = some how ∧
      finiteNumber? c.2 = some n ∧ t = .range field how.symbol n := by
  simp only [Comparison.ofSymbol?_eq_some, finiteNumber?_eq_some]
  constructor
  · rintro ⟨how, finite⟩
    exact ⟨how, _, rfl, ⟨rfl, finite⟩, rfl⟩
  · obtain ⟨symbol, v⟩ := c
    rintro ⟨how, n, rfl, ⟨rfl, finite⟩, rfl⟩
    exact .intro how finite

theorem operand_eq_ok {index : Nat} {v : Json} {t : Term} :
    operand field index v = .ok t ↔ ∃ c, v = .obj [c] ∧ Bound field c t := by
  unfold operand
  split
  · rename_i symbol value
    simp only [Json.obj.injEq, List.cons.injEq, and_true, exists_eq_left', bound_iff]
    cases Comparison.ofSymbol? symbol with
    | none => simp
    | some how =>
      cases finiteNumber? value with
      | none => simp
      | some n => simp [eq_comm]
  · rename_i hmany
    refine iff_of_false (reject_ne_ok _ _) ?_
    rintro ⟨⟨symbol, value⟩, heq, _⟩
    exact hmany symbol value (Json.obj.inj heq)
  · rename_i hother
    refine iff_of_false (reject_ne_ok _ _) ?_
    rintro ⟨c, rfl, _⟩
    exact hother [c] rfl

theorem operands_eq_ok {v : Json} {ts : List Term} :
    operands field v = .ok ts ↔ ∃ a b s t, v = .arr [.obj [a], .obj [b]] ∧ ts = [s, t] ∧
      Bound field a s ∧ Bound field b t := by
  unfold operands
  split
  · rename_i first second
    simp only [bind_eq_ok, pure_eq_ok, operand_eq_ok, Json.arr.injEq, List.cons.injEq, and_true]
    constructor
    · rintro ⟨s, ⟨a, rfl, hs⟩, t, ⟨b, rfl, ht⟩, rfl⟩
      exact ⟨a, b, s, t, ⟨rfl, rfl⟩, rfl, hs, ht⟩
    · rintro ⟨a, b, s, t, ⟨rfl, rfl⟩, rfl, hs, ht⟩
      exact ⟨s, ⟨a, rfl, hs⟩, t, ⟨b, rfl, ht⟩, rfl⟩
  · rename_i hpair
    refine iff_of_false (reject_ne_ok _ _) ?_
    rintro ⟨a, b, _, _, rfl, _⟩
    exact hpair _ _ rfl

theorem condition_eq_ok {c : RawText × Json} {p : Part} :
    condition field c.1 c.2 = .ok p ↔ Condition field c p := by
  obtain ⟨symbol, v⟩ := c
  unfold condition
  by_cases hor : symbol = .text "$or"
  · subst hor
    simp only [if_true, bind_eq_ok, pure_eq_ok, operands_eq_ok]
    constructor
    · rintro ⟨_, ⟨a, b, s, t, rfl, rfl, hs, ht⟩, rfl⟩
      exact .choice hs ht
    · intro h
      cases h with
      | bound bounds =>
        obtain ⟨how, _, hhow, _⟩ := bound_iff.mp bounds
        exact absurd (Comparison.ofSymbol?_eq_some.mp hhow).symm (symbol_ne_or how)
      | choice hs ht => exact ⟨_, ⟨_, _, _, _, rfl, rfl, hs, ht⟩, rfl⟩
  · have hbound : Condition field (symbol, v) p ↔
        ∃ t, Bound field (symbol, v) t ∧ p = { terms := [t] } := by
      constructor
      · intro h
        cases h with
        | bound bounds => exact ⟨_, bounds, rfl⟩
        | choice => exact absurd rfl hor
      · rintro ⟨t, bounds, rfl⟩
        exact .bound bounds
    rw [hbound, if_neg hor]
    simp only [bound_iff]
    cases Comparison.ofSymbol? symbol with
    | none => simp
    | some how =>
      cases finiteNumber? v with
      | none => simp
      | some n => simp [eq_comm]

theorem Part.join_eq (parts : List Part) : Part.join parts =
    ⟨parts.flatMap Part.terms, parts.flatMap Part.alternatives, parts.any Part.claims⟩ := by
  induction parts with
  | nil => rfl
  | cons p rest ih =>
    have hjoin : Part.join (p :: rest) = p.append (Part.join rest) := rfl
    rw [hjoin, ih]
    rfl

theorem conditions_eq_ok {cs : Json.Object} {p : Part} :
    conditions field cs = .ok p ↔
      ∃ parts, List.Forall₂ (Condition field) cs parts ∧ p = Part.join parts := by
  induction cs generalizing p with
  | nil => simp [conditions, Part.join, eq_comm]
  | cons c rest ih =>
    simp only [conditions, bind_eq_ok, pure_eq_ok, condition_eq_ok, ih,
      List.forall₂_cons_left_iff]
    constructor
    · rintro ⟨part, hc, _, ⟨parts, hrest, rfl⟩, rfl⟩
      exact ⟨_, ⟨part, parts, hc, hrest, rfl⟩, rfl⟩
    · rintro ⟨_, ⟨part, parts, hc, hrest, rfl⟩, rfl⟩
      exact ⟨part, hc, _, ⟨parts, hrest, rfl⟩, rfl⟩

theorem Condition.some_of {c : RawText × Json} {p : Part} (h : Condition field c p) :
    p.claims = false ∧ (p.terms ≠ [] ∨ p.alternatives ≠ []) := by
  cases h <;> simp

section Joined
variable {cs : Json.Object} {parts : List Part} (each : List.Forall₂ (Condition field) cs parts)
include each

/-- No condition is on a grant. -/
theorem join_conditions : Part.join parts =
    ⟨parts.flatMap Part.terms, parts.flatMap Part.alternatives, false⟩ := by
  rw [Part.join_eq, Part.mk.injEq]
  refine ⟨rfl, rfl, List.any_eq_false.mpr fun p hp => ?_⟩
  obtain ⟨c, _, hc⟩ := exists_mem_of_forall₂ each hp
  simp [hc.some_of.1]

theorem join_isEmpty :
    ((Part.join parts).terms.isEmpty && (Part.join parts).alternatives.isEmpty) ↔ cs = [] := by
  cases each with
  | nil => simp [Part.join]
  | @cons c p _ parts hc =>
    have hjoin : Part.join (p :: parts) = p.append (Part.join parts) := rfl
    obtain ⟨_, hsome⟩ := hc.some_of
    simp only [hjoin, Part.append, Bool.and_eq_true, List.isEmpty_iff, List.append_eq_nil_iff,
      reduceCtorEq, iff_false]
    tauto

end Joined

end Conditions

/-! ## Entries -/

theorem Plain.iff {v : Json} : Plain v ↔ isScalar v ∧ v.text? = none := by
  constructor
  · intro h
    cases h <;> simp_all [isScalar, Json.text?]
  · rintro ⟨hscalar, htext⟩
    cases v with
    | null => exact .null
    | bool b => exact .bool b
    | num n => exact .num hscalar
    | str | unpaired => cases htext
    | arr | obj => cases hscalar

theorem lowerName_ofText (key : String) (t : RawText) :
    lowerName key (.ofText t) = .ofText (spelled key t) := by
  unfold lowerName spelled
  split <;> simp

theorem lowerName_of_text?_eq_none (key : String) {v : Json} (h : v.text? = none) :
    lowerName key v = v := by
  simp [lowerName, h]

theorem fieldEntry_ofText (key : String) (t : RawText) :
    fieldEntry key (.ofText t) =
      .ok { terms := [.equals (innerField key) (.ofText (spelled key t))] } := by
  rw [← lowerName_ofText]
  cases t <;> rfl

theorem fieldEntry_eq_ok {key : String} {v : Json} {p : Part} :
    fieldEntry key v = .ok p ↔ FieldEntry key v p := by
  constructor
  · intro h
    unfold fieldEntry at h
    split at h
    · obtain ⟨part, hpart, h⟩ := bind_eq_ok.mp h
      obtain ⟨parts, each, rfl⟩ := conditions_eq_ok.mp hpart
      split at h
      · simp at h
      · rename_i hnonempty
        cases h
        rw [join_conditions each]
        exact .conditions (mt (join_isEmpty each).mpr hnonempty) each
    · split at h
      · rename_i hscalar
        cases h
        cases htext : v.text? with
        | none =>
          rw [lowerName_of_text?_eq_none key htext]
          exact .plain (Plain.iff.mpr ⟨hscalar, htext⟩)
        | some t =>
          obtain rfl := Json.text?_eq_some.mp htext
          rw [lowerName_ofText]
          exact .text t
      · simp at h
  · intro h
    cases h with
    | text t => exact fieldEntry_ofText key t
    | plain shape =>
      have hplain := lowerName_of_text?_eq_none key (Plain.iff.mp shape).2
      cases shape with
      | null | bool => simp [fieldEntry, isScalar, hplain]
      | num finite => simp [fieldEntry, isScalar, finite, hplain]
    | @conditions cs parts nonempty each =>
      refine bind_eq_ok.mpr ⟨_, conditions_eq_ok.mpr ⟨parts, each, rfl⟩, ?_⟩
      rw [if_neg (mt (join_isEmpty each).mp nonempty), join_conditions each]
      rfl

theorem texts?_eq_some {items : List Json} {tags : List RawText} :
    texts? items = some tags ↔ items = tags.map .ofText := by
  simp only [texts?, Outcome.mapM_eq_some, Json.text?_eq_some]
  rw [← List.forall₂_eq_eq_eq, List.forall₂_map_right_iff]

theorem tagEntry_eq_ok {limits : Settings} {v : Json} {p : Part} :
    tagEntry limits v = .ok p ↔ ∃ tags : List RawText, v = .arr (tags.map .ofText) ∧
      (tags.length : Int) ≤ limits.maxSearchableTags ∧
      p = { terms := [.anyOf "tags" (normalizeRawTags tags)] } := by
  unfold tagEntry
  split
  · rename_i items
    simp only [Json.arr.injEq, ← texts?_eq_some]
    split
    · rename_i hmany
      refine iff_of_false (reject_ne_ok _ _) ?_
      rintro ⟨tags, htags, few, _⟩
      rw [texts?_eq_some.mp htags, List.length_map] at hmany
      omega
    · rename_i hfew
      cases htexts : texts? items with
      | none => simp
      | some tags =>
        rw [texts?_eq_some.mp htexts, List.length_map, not_lt] at hfew
        simp [hfew, eq_comm]
  · rename_i hother
    refine iff_of_false (reject_ne_ok _ _) ?_
    rintro ⟨tags, rfl, _⟩
    exact hother _ rfl

theorem claim_first_eq_ok {limits : Settings} {key grantee : RawText} {name : String} :
    claim limits false key grantee = .ok name ↔ grantee = .text name ∧ IsGrantee limits name := by
  cases grantee with
  | unpaired => simp [claim]
  | text s =>
    simp only [claim, Bool.false_eq_true, if_false, RawText.text.injEq]
    by_cases heveryone : s = publicGrantee
    · simp only [heveryone, ne_eq, not_true_eq_false, decide_false, Bool.false_and,
        Bool.false_eq_true, if_false, Except.ok.injEq, IsGrantee]
      grind
    · cases hshaped : Username.isShaped limits s
      · simp [heveryone]
        grind [IsGrantee]
      · simp [heveryone]
        grind [IsGrantee]

theorem grantEntry_eq_ok {key : RawText} {grantee : String} {v : Json} {p : Part} :
    grantEntry key grantee v = .ok p ↔ ∃ level ∈ permissionLevels, v = .str level ∧
      p = { terms := [.granted grantee level], claims := true } := by
  unfold grantEntry
  split
  · split
    · rename_i hlegal
      simp [hlegal, eq_comm]
    · simp_all
  · simp_all

theorem equalityField_key {field : String} (h : field ∈ equalityFields) :
    RawText.text field ≠ .text "tags" ∧ RawText.text field ≠ .text "permissions" ∧
      RawText.rest? "permissions." field = none := by
  revert field
  decide

theorem rest?_eq_text {word s : String} {t : RawText} :
    t.rest? word = some (.text s) ↔ t = .text (word ++ s) := by
  cases t with
  | text t => simp [RawText.rest?, Text.rest?_eq_some]
  | unpaired => simp [RawText.rest?]

theorem grant_ne {key : String} (h : RawText.rest? "permissions." key = none) (grantee : String) :
    RawText.text ("permissions." ++ grantee) ≠ .text key := by
  intro hkey
  rw [← hkey, rest?_eq_text.mpr rfl] at h
  cases h

theorem grant_key (grantee : String) : RawText.text ("permissions." ++ grantee) ≠ .text "tags" ∧
    RawText.text ("permissions." ++ grantee) ≠ .text "permissions" ∧
    RawText.text ("permissions." ++ grantee) ≠ .text "name" :=
  ⟨grant_ne (rfl) grantee, grant_ne (rfl) grantee, grant_ne (rfl) grantee⟩

theorem equalityEntry_eq_ok {limits : Settings} {e : RawText × Json} {p : Part} :
    equalityEntry limits false e.1 e.2 = .ok p ↔ EqualityEntry limits e p := by
  obtain ⟨key, v⟩ := e
  constructor
  · intro h
    unfold equalityEntry at h
    split at h
    · rename_i hkey
      obtain ⟨tags, rfl, few, rfl⟩ := tagEntry_eq_ok.mp h
      obtain rfl : key = .text "tags" := hkey
      exact .tags few
    · split at h
      · simp at h
      · split at h
        · rename_i hgrantee
          obtain ⟨_, hclaim, hlevel⟩ := bind_eq_ok.mp h
          obtain ⟨rfl, known⟩ := claim_first_eq_ok.mp hclaim
          obtain rfl := rest?_eq_text.mp hgrantee
          obtain ⟨level, legal, rfl, rfl⟩ := grantEntry_eq_ok.mp hlevel
          exact .grant known legal
        · split at h
          · rename_i hfield
            obtain ⟨rfl, known⟩ := knownField?_eq_some.mp hfield
            exact .field known (fieldEntry_eq_ok.mp h)
          · simp at h
  · intro h
    cases h with
    | tags few => exact tagEntry_eq_ok.mpr ⟨_, rfl, few, rfl⟩
    | @grant grantee level known legal =>
      obtain ⟨htags, hbare, _⟩ := grant_key grantee
      have hrest : RawText.rest? "permissions." (.text ("permissions." ++ grantee)) =
          some (.text grantee) := rest?_eq_text.mpr rfl
      simp only [equalityEntry, if_neg htags, if_neg hbare, hrest]
      exact bind_eq_ok.mpr ⟨grantee, claim_first_eq_ok.mpr ⟨rfl, known⟩,
        grantEntry_eq_ok.mpr ⟨level, legal, rfl, rfl⟩⟩
    | field known compared =>
      obtain ⟨htags, hbare, hrest⟩ := equalityField_key known
      simp only [equalityEntry, if_neg htags, if_neg hbare, hrest,
        knownField?_eq_some.mpr ⟨rfl, known⟩]
      exact fieldEntry_eq_ok.mpr compared

theorem checkPattern_iff {key source : RawText} {u : Unit} :
    checkPattern key source = .ok u ↔ IsSource source := by
  unfold checkPattern IsSource
  split
  · simp_all
  · split <;> simp_all

theorem patternSource_iff {key source : RawText} {v : Json} :
    patternSource key v = .ok source ↔
      ∃ t, v = .ofText t ∧ source = (if key = .text "name" then t.lower else t) ∧
        IsSource source := by
  simp only [patternSource, ← Json.text?_eq_some]
  cases v.text? with
  | none => simp
  | some t =>
    simp only [bind_eq_ok, pure_eq_ok, checkPattern_iff, Option.some.injEq, exists_eq_left']
    grind

theorem spelled_eq (field : String) (t : RawText) :
    (if RawText.text field = .text "name" then t.lower else t) = spelled field t := by
  simp [spelled]

theorem patternField_key {field : String} (h : field ∈ patternFields) :
    RawText.text field ≠ .text "permissions" ∧ RawText.rest? "permissions." field = none := by
  revert field
  decide

theorem patternEntry_eq_ok {limits : Settings} {e : RawText × Json} {p : Part} :
    patternEntry limits false e.1 e.2 = .ok p ↔ PatternEntry limits e p := by
  obtain ⟨key, v⟩ := e
  constructor
  · intro h
    unfold patternEntry at h
    split at h
    · simp at h
    · split at h
      · rename_i hgrantee
        simp only [bind_eq_ok, pure_eq_ok] at h
        obtain ⟨grantee, hclaim, source, hsource, rfl⟩ := h
        obtain ⟨rfl, known⟩ := claim_first_eq_ok.mp hclaim
        obtain rfl := rest?_eq_text.mp hgrantee
        obtain ⟨t, rfl, hspelled, reads⟩ := patternSource_iff.mp hsource
        obtain rfl : source = t := by rwa [if_neg (grant_key grantee).2.2] at hspelled
        exact .grant known reads
      · split at h
        · rename_i hfield
          simp only [bind_eq_ok, pure_eq_ok] at h
          obtain ⟨source, hsource, rfl⟩ := h
          obtain ⟨rfl, known⟩ := knownField?_eq_some.mp hfield
          obtain ⟨t, rfl, rfl, reads⟩ := patternSource_iff.mp hsource
          rw [spelled_eq] at reads ⊢
          exact .field known reads
        · simp at h
  · intro h
    cases h with
    | @grant grantee source known reads =>
      obtain ⟨_, hbare, hname⟩ := grant_key grantee
      have hrest : RawText.rest? "permissions." (.text ("permissions." ++ grantee)) =
          some (.text grantee) := rest?_eq_text.mpr rfl
      simp only [patternEntry, if_neg hbare, hrest, bind_eq_ok, pure_eq_ok]
      exact ⟨grantee, claim_first_eq_ok.mpr ⟨rfl, known⟩, source,
        patternSource_iff.mpr ⟨source, rfl, (if_neg hname).symm, reads⟩, rfl⟩
    | @field field source known reads =>
      obtain ⟨hbare, hrest⟩ := patternField_key known
      simp only [patternEntry, if_neg hbare, hrest, knownField?_eq_some.mpr ⟨rfl, known⟩,
        bind_eq_ok, pure_eq_ok]
      exact ⟨_, patternSource_iff.mpr ⟨source, rfl, (spelled_eq field source).symm, reads⟩, rfl⟩

/-! ## Matchers -/

def onGrant (e : RawText × Json) : Bool := (e.1.rest? "permissions.").isSome

theorem EqualityEntry.claims_eq {limits : Settings} {e : RawText × Json} {p : Part}
    (h : EqualityEntry limits e p) : p.claims = onGrant e := by
  unfold onGrant
  cases h with
  | tags => rfl
  | grant =>
    rw [rest?_eq_text.mpr rfl]
    rfl
  | field known compared =>
    rw [(equalityField_key known).2.2]
    cases compared <;> rfl

theorem PatternEntry.claims_eq {limits : Settings} {e : RawText × Json} {p : Part}
    (h : PatternEntry limits e p) : p.claims = onGrant e := by
  unfold onGrant
  cases h with
  | grant =>
    rw [rest?_eq_text.mpr rfl]
    rfl
  | field known =>
    rw [(patternField_key known).2]
    rfl

section Entries
variable {check : Bool → RawText → Json → Except Failure Part}
  {Entry : RawText × Json → Part → Prop} {o : Json.Object}

theorem eq_map_contribution (hcheck : ∀ e p, check false e.1 e.2 = .ok p ↔ Entry e p)
    {parts : List Part} (h : List.Forall₂ Entry o parts) : parts = o.map (contribution check) := by
  induction h with
  | nil => rfl
  | cons hentry _ ih => rw [List.map_cons, ← ih, contribution_eq ((hcheck _ _).mpr hentry)]

/-- The entries of an object follow the grammar with the parts that they contribute. -/
theorem forall₂_iff_contribution (hcheck : ∀ e p, check false e.1 e.2 = .ok p ↔ Entry e p)
    {parts : List Part} : List.Forall₂ Entry o parts ↔
      (∀ e ∈ o, check false e.1 e.2 = .ok (contribution check e)) ∧
      parts = o.map (contribution check) := by
  have heach : (∀ e ∈ o, check false e.1 e.2 = .ok (contribution check e)) ↔
      List.Forall₂ Entry o (o.map (contribution check)) := by
    simp only [hcheck, List.forall₂_map_right_iff, List.forall₂_same]
  rw [heach]
  refine ⟨fun h => ?_, fun ⟨h, hparts⟩ => hparts ▸ h⟩
  have hparts := eq_map_contribution hcheck h
  exact ⟨hparts ▸ h, hparts⟩

theorem countP_claims (hcheck : ∀ e p, check false e.1 e.2 = .ok p ↔ Entry e p)
    (hclaims : ∀ e p, Entry e p → p.claims = onGrant e)
    (h : ∀ e ∈ o, check false e.1 e.2 = .ok (contribution check e)) :
    o.countP (fun e => (contribution check e).claims) = o.countP onGrant :=
  List.countP_congr fun e he => by rw [hclaims e _ ((hcheck e _).mp (h e he))]

end Entries

theorem entriesOf_iff {name : String} {v : Json} {o : Json.Object} :
    entriesOf name v = .ok o ↔ v = .null ∧ o = [] ∨ v = .obj o := by
  refine ⟨entriesOf_eq_ok, ?_⟩
  rintro (⟨rfl, rfl⟩ | rfl) <;> rfl

theorem compile_eq_ok_iff_entries {limits : Settings} {equality patterns : Json} {m : Matcher} :
    compile limits equality patterns = .ok m ↔
      ∃ o, (equality = .null ∧ o = [] ∨ equality = .obj o) ∧
        compile limits (.obj o) patterns = .ok m := by
  rw [compile, bind_eq_ok]
  exact exists_congr fun o => and_congr entriesOf_iff Iff.rfl

/-- A pair of values makes up a matcher if each is null or an object, their entries follow the
grammar, and at most one of these is on a grant. Its terms are those of the entries in order, those
of the equality matcher first, and its alternatives those of the choices. -/
theorem compile_iff_grammatical {limits : Settings} {equality patterns : Json} {m : Matcher} :
    compile limits equality patterns = .ok m ↔
      ∃ (o o' : Json.Object) (parts more : List Part),
        (equality = .null ∧ o = [] ∨ equality = .obj o) ∧
        (patterns = .null ∧ o' = [] ∨ patterns = .obj o') ∧
        List.Forall₂ (EqualityEntry limits) o parts ∧ List.Forall₂ (PatternEntry limits) o' more ∧
        (o ++ o').countP onGrant ≤ 1 ∧
        m.terms = (parts ++ more).flatMap Part.terms ∧
        m.alternatives = parts.flatMap Part.alternatives := by
  have hequality := fun e p => @equalityEntry_eq_ok limits e p
  have hpatterns := fun e p => @patternEntry_eq_ok limits e p
  simp only [@compile_eq_ok_iff_entries limits equality, compile_eq_ok, entriesOf_iff,
    forall₂_iff_contribution hequality, forall₂_iff_contribution hpatterns, Part.join_eq]
  constructor
  · rintro ⟨o, ho, o', ho', hreads, hreads', hcount, rfl⟩
    rw [countP_claims hequality (fun _ _ => EqualityEntry.claims_eq) hreads,
      countP_claims hpatterns (fun _ _ => PatternEntry.claims_eq) hreads', ← List.countP_append]
      at hcount
    exact ⟨o, o', _, _, ho, ho', ⟨hreads, rfl⟩, ⟨hreads', rfl⟩, hcount,
      by rw [List.flatMap_append], rfl⟩
  · rintro ⟨o, o', _, _, ho, ho', ⟨hreads, rfl⟩, ⟨hreads', rfl⟩, hcount, hterms, halternatives⟩
    rw [List.countP_append,
      ← countP_claims hequality (fun _ _ => EqualityEntry.claims_eq) hreads,
      ← countP_claims hpatterns (fun _ _ => PatternEntry.claims_eq) hreads'] at hcount
    refine ⟨o, ho, o', ho', hreads, hreads', hcount, ?_⟩
    rw [← List.flatMap_append, ← hterms, ← halternatives]

end Matcher
end FileShare

import FileShare.Proofs.Runs.Identity
import FileShare.Proofs.Search.Requests

/-! # Splitting a matcher

An entry of a matcher is read by itself; only that there is at most one entry on a grant concerns
the entries together. So the parts of a matcher that is accepted are accepted, and hold its terms
and its alternatives between them. All terms have to hold, and they may be asked for in two
searches. The alternatives of all fields are one group, of which one has to hold, and there it makes
a difference whether they are asked for together.
-/
namespace FileShare
open Outcome

namespace Matcher

def OffersChoice (v : Json) : Prop :=
  ∃ conditions, v = .obj conditions ∧ ∃ c ∈ conditions, c.1 = .text "$or"

/-! ## What an entry contributes -/

theorem operands_ne_nil {field : String} {v : Json} {es : List Term}
    (h : operands field v = .ok es) : es ≠ [] := by
  unfold operands at h
  split at h
  · simp only [bind_eq_ok, pure_eq_ok] at h
    obtain ⟨_, _, _, _, rfl⟩ := h
    exact List.cons_ne_nil _ _
  · simp at h

theorem condition_cases {field : String} {symbol : RawText} {value : Json} {p : Part}
    (h : condition field symbol value = .ok p) :
    (symbol = .text "$or" ∧ ∃ es, es ≠ [] ∧ p = { alternatives := es }) ∨
      symbol ≠ .text "$or" ∧ ∃ e, p = { terms := [e] } := by
  unfold condition at h
  split at h
  · rename_i hor
    simp only [bind_eq_ok, pure_eq_ok] at h
    obtain ⟨es, hes, rfl⟩ := h
    exact .inl ⟨hor, es, operands_ne_nil hes, rfl⟩
  · rename_i hor
    cases hs : Comparison.ofSymbol? symbol with
    | none => simp [hs] at h
    | some how =>
      cases hn : finiteNumber? value with
      | none => simp [hs, hn] at h
      | some n =>
        simp only [hs, hn, Except.ok.injEq] at h
        exact .inr ⟨hor, _, h.symm⟩

theorem conditions_shape {field : String} {entries : Json.Object} {p : Part}
    (h : conditions field entries = .ok p) :
    p.claims = false ∧ (p.alternatives ≠ [] ↔ ∃ c ∈ entries, c.1 = .text "$or") := by
  induction entries generalizing p with
  | nil =>
    cases h
    simp
  | cons entry rest ih =>
    simp only [conditions, bind_eq_ok, pure_eq_ok] at h
    obtain ⟨part, hpart, more, hmore, rfl⟩ := h
    obtain ⟨hclaims, halternatives⟩ := ih hmore
    rcases condition_cases hpart with ⟨hor, es, hes, rfl⟩ | ⟨hor, e, rfl⟩
    · simp [Part.append, hclaims, hor, hes]
    · simpa [Part.append, hclaims, hor] using halternatives

theorem fieldEntry_shape {key : String} {v : Json} {p : Part} (h : fieldEntry key v = .ok p) :
    p.claims = false ∧ (p.alternatives ≠ [] ↔ OffersChoice v) := by
  unfold fieldEntry at h
  split at h
  · simp only [bind_eq_ok] at h
    obtain ⟨part, hpart, h⟩ := h
    split at h
    · simp at h
    · cases h
      simpa [OffersChoice] using conditions_shape hpart
  · rename_i hobj
    split at h
    · cases h
      simpa [OffersChoice] using fun conditions hv => absurd hv (hobj conditions)
    · simp at h

theorem tagEntry_shape {limits : Settings} {v : Json} {p : Part} (h : tagEntry limits v = .ok p) :
    p.claims = false ∧ (p.alternatives ≠ [] ↔ OffersChoice v) := by
  unfold tagEntry at h
  split at h
  · split at h
    · simp at h
    · split at h
      · simp at h
      · cases h
        simp [OffersChoice]
  · simp at h

theorem grantEntry_shape {key : RawText} {grantee : String} {v : Json} {p : Part}
    (h : grantEntry key grantee v = .ok p) :
    p.claims = true ∧ (p.alternatives ≠ [] ↔ OffersChoice v) := by
  unfold grantEntry at h
  split at h
  · split at h
    · cases h
      simp [OffersChoice]
    · simp at h
  · simp at h

theorem claim_eq_ok {limits : Settings} {claimed : Bool} {key grantee : RawText} {name : String} :
    claim limits claimed key grantee = .ok name ↔
      claim limits false key grantee = .ok name ∧ claimed = false := by
  cases claimed <;> simp [claim]

theorem equalityEntry_choice {limits : Settings} {claimed : Bool} {key : RawText} {v : Json}
    {p : Part} (h : equalityEntry limits claimed key v = .ok p) :
    p.alternatives ≠ [] ↔ OffersChoice v := by
  unfold equalityEntry at h
  split at h
  · exact (tagEntry_shape h).2
  · split at h
    · simp at h
    · split at h
      · obtain ⟨_, _, h⟩ := bind_eq_ok.mp h
        exact (grantEntry_shape h).2
      · split at h
        · exact (fieldEntry_shape h).2
        · simp at h

/-! ## What entries contribute together -/

/-- An entry is read by itself, but for the claim on the grant. -/
def ReadsAlone (check : Bool → RawText → Json → Except Failure Part) : Prop :=
  ∀ claimed key v p, check claimed key v = .ok p ↔
    check false key v = .ok p ∧ (claimed && p.claims) = false

theorem equalityEntry_readsAlone (limits : Settings) : ReadsAlone (equalityEntry limits) := by
  intro claimed key v p
  unfold equalityEntry
  split
  · exact ⟨fun h => ⟨h, by simp [(tagEntry_shape h).1]⟩, And.left⟩
  · split
    · simp
    · split
      · simp only [bind_eq_ok]
        constructor
        · rintro ⟨name, hclaim, hgrant⟩
          obtain ⟨hfirst, rfl⟩ := claim_eq_ok.mp hclaim
          exact ⟨⟨name, hfirst, hgrant⟩, rfl⟩
        · rintro ⟨⟨name, hfirst, hgrant⟩, hclaimed⟩
          rw [(grantEntry_shape hgrant).1, Bool.and_true] at hclaimed
          exact ⟨name, claim_eq_ok.mpr ⟨hfirst, hclaimed⟩, hgrant⟩
      · split
        · exact ⟨fun h => ⟨h, by simp [(fieldEntry_shape h).1]⟩, And.left⟩
        · simp

theorem patternEntry_readsAlone (limits : Settings) : ReadsAlone (patternEntry limits) := by
  intro claimed key v p
  unfold patternEntry
  split
  · simp
  · split
    · simp only [bind_eq_ok, pure_eq_ok]
      constructor
      · rintro ⟨name, hclaim, source, hsource, rfl⟩
        obtain ⟨hfirst, rfl⟩ := claim_eq_ok.mp hclaim
        exact ⟨⟨name, hfirst, source, hsource, rfl⟩, rfl⟩
      · rintro ⟨⟨name, hfirst, source, hsource, rfl⟩, hclaimed⟩
        exact ⟨name, claim_eq_ok.mpr ⟨hfirst, by simpa using hclaimed⟩, source, hsource, rfl⟩
    · split
      · simp only [bind_eq_ok, pure_eq_ok]
        refine ⟨fun h => ⟨h, ?_⟩, And.left⟩
        obtain ⟨_, _, rfl⟩ := h
        simp
      · simp

section Entries
variable {check : Bool → RawText → Json → Except Failure Part}

def contribution (check : Bool → RawText → Json → Except Failure Part) (e : RawText × Json) :
    Part :=
  (check false e.1 e.2).toOption.getD {}

def Part.join (parts : List Part) : Part := parts.foldr Part.append {}

theorem Part.mem_terms_join {parts : List Part} {e : Term} :
    e ∈ (join parts).terms ↔ ∃ p ∈ parts, e ∈ p.terms := by
  induction parts with
  | nil => simp [join]
  | cons p rest ih => simpa [join, Part.append] using or_congr_right ih

theorem Part.mem_alternatives_join {parts : List Part} {e : Term} :
    e ∈ (join parts).alternatives ↔ ∃ p ∈ parts, e ∈ p.alternatives := by
  induction parts with
  | nil => simp [join]
  | cons p rest ih => simpa [join, Part.append] using or_congr_right ih

theorem contribution_eq {e : RawText × Json} {p : Part} (h : check false e.1 e.2 = .ok p) :
    contribution check e = p := by
  simp [contribution, h, Except.toOption]

theorem Part.toNat_claims_join {parts : List Part} (h : parts.countP Part.claims ≤ 1) :
    (join parts).claims.toNat = parts.countP Part.claims := by
  induction parts with
  | nil => rfl
  | cons p rest ih =>
    have hjoin : (join (p :: rest)).claims = (p.claims || (join rest).claims) := rfl
    rw [List.countP_cons] at h ⊢
    rw [hjoin]
    have hrest := ih (by omega)
    cases hp : p.claims with
    | false => simpa [hp] using hrest
    | true =>
      rw [hp, if_pos rfl] at h
      simp only [Bool.true_or, Bool.toNat_true, ↓reduceIte]
      omega

theorem claims_cons {claimed here : Bool} {more : Nat} :
    (claimed && here) = false ∧ (claimed || here).toNat + more ≤ 1 ↔
      claimed.toNat + (more + here.toNat) ≤ 1 := by
  cases claimed <;> cases here <;> simp

theorem entries_eq_ok (hcheck : ReadsAlone check) {claimed : Bool} {o : Json.Object} {p : Part} :
    entries check claimed o = .ok p ↔
      (∀ e ∈ o, check false e.1 e.2 = .ok (contribution check e)) ∧
      claimed.toNat + o.countP (fun e => (contribution check e).claims) ≤ 1 ∧
      p = Part.join (o.map (contribution check)) := by
  induction o generalizing claimed p with
  | nil => simp [entries, Part.join, Bool.toNat_le, eq_comm]
  | cons entry rest ih =>
    -- The claim of the first entry moves from the count to what was claimed before the rest.
    have hcount : claimed.toNat +
        (entry :: rest).countP (fun e => (contribution check e).claims) ≤ 1 ↔
        (claimed && (contribution check entry).claims) = false ∧
          (claimed || (contribution check entry).claims).toNat +
            rest.countP (fun e => (contribution check e).claims) ≤ 1 := by
      rw [claims_cons, List.countP_cons]
      cases (contribution check entry).claims <;> simp
    rw [hcount]
    simp only [entries, bind_eq_ok, pure_eq_ok, List.forall_mem_cons]
    constructor
    · rintro ⟨part, hpart, more, hmore, rfl⟩
      obtain ⟨halone, hfree⟩ := (hcheck _ _ _ _).mp hpart
      obtain rfl := contribution_eq halone
      obtain ⟨hrest, hclaims, rfl⟩ := ih.mp hmore
      exact ⟨⟨halone, hrest⟩, ⟨hfree, hclaims⟩, rfl⟩
    · rintro ⟨⟨halone, hrest⟩, ⟨hfree, hclaims⟩, rfl⟩
      exact ⟨_, (hcheck _ _ _ _).mpr ⟨halone, hfree⟩, _, ih.mpr ⟨hrest, hclaims, rfl⟩, rfl⟩

end Entries

/-! ## Splitting -/

section Splitting
variable {limits : Settings} {o a b : Json.Object} {patterns : Json} {m : Matcher}

theorem compile_eq_ok : compile limits (.obj o) patterns = .ok m ↔
    ∃ second, entriesOf "regexMatch" patterns = .ok second ∧
      (∀ e ∈ o, equalityEntry limits false e.1 e.2 =
        .ok (contribution (equalityEntry limits) e)) ∧
      (∀ e ∈ second, patternEntry limits false e.1 e.2 =
        .ok (contribution (patternEntry limits) e)) ∧
      o.countP (fun e => (contribution (equalityEntry limits) e).claims) +
        second.countP (fun e => (contribution (patternEntry limits) e).claims) ≤ 1 ∧
      m = ⟨(Part.join (o.map (contribution (equalityEntry limits)))).terms ++
          (Part.join (second.map (contribution (patternEntry limits)))).terms,
        (Part.join (o.map (contribution (equalityEntry limits)))).alternatives⟩ := by
  have hclaims : o.countP (fun e => (contribution (equalityEntry limits) e).claims) ≤ 1 →
      (Part.join (o.map (contribution (equalityEntry limits)))).claims.toNat =
        o.countP (fun e => (contribution (equalityEntry limits) e).claims) := by
    intro h
    have hmap : (o.map (contribution (equalityEntry limits))).countP Part.claims =
        o.countP fun e => (contribution (equalityEntry limits) e).claims := List.countP_map
    rw [Part.toNat_claims_join (hmap ▸ h), hmap]
  have hfirst : entriesOf "match" (.obj o) = .ok o := rfl
  simp only [compile, hfirst, ok_bind, bind_eq_ok, pure_eq_ok,
    entries_eq_ok (equalityEntry_readsAlone limits), entries_eq_ok (patternEntry_readsAlone limits)]
  constructor
  · rintro ⟨second, hsecond, _, ⟨ho, hcount, rfl⟩, _, ⟨hpatterns, hboth, rfl⟩, rfl⟩
    refine ⟨second, hsecond, ho, hpatterns, ?_, rfl⟩
    rw [Bool.toNat_false, Nat.zero_add] at hcount
    rwa [hclaims hcount] at hboth
  · rintro ⟨second, hsecond, ho, hpatterns, hboth, rfl⟩
    have hcount := (Nat.le_add_right _ _).trans hboth
    refine ⟨second, hsecond, _, ⟨ho, by simpa using hcount, rfl⟩, _,
      ⟨hpatterns, ?_, rfl⟩, rfl⟩
    rwa [hclaims hcount]

theorem alternatives_ne_nil (hm : compile limits (.obj o) patterns = .ok m) :
    m.alternatives ≠ [] ↔ ∃ e ∈ o, OffersChoice e.2 := by
  obtain ⟨_, _, ho, _, _, rfl⟩ := compile_eq_ok.mp hm
  constructor
  · intro hne
    obtain ⟨t, ht⟩ := List.exists_mem_of_ne_nil _ hne
    obtain ⟨_, hp, ht⟩ := Part.mem_alternatives_join.mp ht
    obtain ⟨e, he, rfl⟩ := List.mem_map.mp hp
    exact ⟨e, he, (equalityEntry_choice (ho e he)).mp (List.ne_nil_of_mem ht)⟩
  · rintro ⟨e, he, hchoice⟩
    obtain ⟨t, ht⟩ := List.exists_mem_of_ne_nil _ ((equalityEntry_choice (ho e he)).mpr hchoice)
    exact List.ne_nil_of_mem (Part.mem_alternatives_join.mpr ⟨_, List.mem_map_of_mem he, ht⟩)

/-- Two matchers hold the terms and the alternatives of a third between them. -/
structure SharedOut (m ma mb : Matcher) : Prop where
  terms : ∀ e, e ∈ m.terms ↔ e ∈ ma.terms ∨ e ∈ mb.terms
  alternatives : ∀ e, e ∈ m.alternatives ↔ e ∈ ma.alternatives ∨ e ∈ mb.alternatives

theorem compile_split (hm : compile limits (.obj o) patterns = .ok m) (hsplit : o.Perm (a ++ b)) :
    ∃ ma mb, compile limits (.obj a) patterns = .ok ma ∧
      compile limits (.obj b) patterns = .ok mb ∧ SharedOut m ma mb := by
  obtain ⟨second, hsecond, ho, hpatterns, hcount, rfl⟩ := compile_eq_ok.mp hm
  obtain ⟨ha, hb⟩ := List.forall_mem_append.mp fun e he => ho e (hsplit.mem_iff.mpr he)
  rw [hsplit.countP_eq, List.countP_append] at hcount
  refine ⟨_, _, compile_eq_ok.mpr ⟨second, hsecond, ha, hpatterns, by omega, rfl⟩,
    compile_eq_ok.mpr ⟨second, hsecond, hb, hpatterns, by omega, rfl⟩, fun e => ?_, fun e => ?_⟩
  · simp only [List.mem_append, Part.mem_terms_join, List.mem_map, hsplit.mem_iff]
    grind
  · simp only [Part.mem_alternatives_join, List.mem_map, hsplit.mem_iff, List.mem_append]
    grind

end Splitting

/-! ## What the parts keep -/

theorem keeps_iff {m : Matcher} {n : Node} : m.keeps n ↔
    (∀ t ∈ m.terms, t.holds n) ∧ (m.alternatives = [] ∨ ∃ t ∈ m.alternatives, t.holds n) := by
  simp [keeps]

namespace SharedOut
variable {m ma mb : Matcher} (h : SharedOut m ma mb)
include h

theorem integersFit (hm : m.IntegersFit) : ma.IntegersFit ∧ mb.IntegersFit := by
  have hmem : ∀ e ∈ m.terms ++ m.alternatives, ∀ k, e.number? = some (.int k) →
      -2 ^ 63 ≤ k ∧ k < 2 ^ 63 := hm
  simp only [List.mem_append, h.terms, h.alternatives] at hmem
  constructor
  · intro e he
    exact hmem e ((List.mem_append.mp he).imp .inl .inl)
  · intro e he
    exact hmem e ((List.mem_append.mp he).imp .inr .inr)

theorem textsFit (hm : m.TextsFit) : ma.TextsFit ∧ mb.TextsFit := by
  have hmem : ∀ e ∈ m.terms ++ m.alternatives, ∀ t ∈ e.texts, t.utf8?.isSome := hm
  simp only [List.mem_append, h.terms, h.alternatives] at hmem
  constructor
  · intro e he
    exact hmem e ((List.mem_append.mp he).imp .inl .inl)
  · intro e he
    exact hmem e ((List.mem_append.mp he).imp .inr .inr)

variable (n : Node)

theorem terms_hold : (∀ t ∈ m.terms, t.holds n) ↔
    (∀ t ∈ ma.terms, t.holds n) ∧ ∀ t ∈ mb.terms, t.holds n := by
  simp only [h.terms, or_imp, forall_and]

theorem alternative_holds : (∃ t ∈ m.alternatives, t.holds n) ↔
    (∃ t ∈ ma.alternatives, t.holds n) ∨ ∃ t ∈ mb.alternatives, t.holds n := by
  simp only [h.alternatives, or_and_right, exists_or]

theorem alternatives_eq_nil : m.alternatives = [] ↔
    ma.alternatives = [] ∧ mb.alternatives = [] := by
  simp only [List.eq_nil_iff_forall_not_mem, h.alternatives, not_or, forall_and]

theorem keeps_of_both (ha : ma.keeps n) (hb : mb.keeps n) : m.keeps n := by
  rw [keeps_iff] at ha hb ⊢
  rw [h.terms_hold, h.alternative_holds, h.alternatives_eq_nil]
  refine ⟨⟨ha.1, hb.1⟩, ?_⟩
  rcases ha.2 with hnone | hsome
  · exact hb.2.imp (⟨hnone, ·⟩) .inr
  · exact .inr (.inl hsome)

/-- Where one part has no alternatives, the group is that of the other part. -/
theorem both_of_keeps (hone : ma.alternatives = [] ∨ mb.alternatives = []) (hm : m.keeps n) :
    ma.keeps n ∧ mb.keeps n := by
  rw [keeps_iff, h.terms_hold, h.alternative_holds, h.alternatives_eq_nil] at hm
  rw [keeps_iff, keeps_iff]
  obtain ⟨⟨ha, hb⟩, hgroup⟩ := hm
  rcases hone with hnone | hnone
  · refine ⟨⟨ha, .inl hnone⟩, hb, ?_⟩
    simpa [hnone] using hgroup
  · refine ⟨⟨ha, ?_⟩, hb, .inl hnone⟩
    simpa [hnone] using hgroup

/-- Where both parts have alternatives, those of either part will do. -/
theorem keeps_pooled (ha : ma.alternatives ≠ []) : m.keeps n ↔
    (∀ t ∈ ma.terms ++ mb.terms, t.holds n) ∧
      ∃ t ∈ ma.alternatives ++ mb.alternatives, t.holds n := by
  rw [keeps_iff, h.terms_hold, h.alternative_holds, h.alternatives_eq_nil, List.forall_mem_append]
  simp only [ha, false_and, false_or, List.mem_append, or_and_right, exists_or]

end SharedOut
end Matcher

/-! ## What the parts find -/

namespace Nodes

def Finds (limits : Settings) (s : Store) (username : String) (equality patterns : Json)
    (n : Node) : Prop :=
  ∃ found, search limits username .null equality patterns s = .ok found ∧ n ∈ found

theorem finds_iff {limits : Settings} {s : Store} {username : String} {equality patterns : Json}
    {m : Matcher} (hs : s.Keyed) (huser : s.hasUser username)
    (hm : Matcher.compile limits equality patterns = .ok m) (hfit : m.IntegersFit)
    (htexts : m.TextsFit) (hroom : s.nodes.length ≤ limits.resultsPerPage) (n : Node) :
    Finds limits s username equality patterns n ↔
      Store.fitsInteger limits.resultsPerPage ∧ n ∈ s.nodes ∧ n.VisibleTo username ∧ m.keeps n := by
  obtain ⟨hterms, halts⟩ := Matcher.compile_checked hm
  obtain ⟨p, hp, hlimit, hanswers, hselects, hfits⟩ :=
    Query.ofMatcher_reads hterms halts username limits.resultsPerPage none
  rw [Finds, search_eq_fetch rfl (by simp) huser hm hp]
  cases hsize : Store.fitsInteger limits.resultsPerPage with
  | false =>
    have hwide : ¬ p.fault? = none := by
      rw [Query.Plan.fault?_eq_none, Query.Plan.parameters, List.forall_mem_append, hlimit]
      simp [Query.Parameter.fault?, hsize]
    obtain ⟨fault, hfault⟩ := Option.ne_none_iff_exists'.mp hwide
    simp [Query.fetch_of_fault hfault]
  | true =>
    rw [Query.fetch_eq hs hanswers (hfits hfit htexts hsize), hlimit, hselects,
      Query.page_filter_of_room hroom]
    simp [(Query.newestNodes_perm _).mem_iff, Matcher.finds_iff]

/-- A node that is found with both parts of a matcher is found with the whole, and the other way
round unless both parts offer alternatives. If they do, their alternatives are pooled: then it is
enough for a node to have one of either part. -/
theorem search_splits {allowed : Call → Store → Prop} {limits : Settings} {s : Store}
    {username : String} {o a b : Json.Object} {patterns : Json} {m : Matcher}
    (h : Reachable allowed s) (distinct : (s.nodes.map Node.id).Nodup)
    (huser : s.hasUser username) (hm : Matcher.compile limits (.obj o) patterns = .ok m)
    (hfit : m.IntegersFit) (htexts : m.TextsFit) (hsplit : o.Perm (a ++ b))
    (hroom : s.nodes.length ≤ limits.resultsPerPage) :
    ∃ ma mb, Matcher.compile limits (.obj a) patterns = .ok ma ∧
      Matcher.compile limits (.obj b) patterns = .ok mb ∧
      (Store.fitsInteger limits.resultsPerPage → ∀ part ∈ [o, a, b], ∃ found,
        search limits username .null (.obj part) patterns s = .ok found) ∧
      ∀ n,
        (Finds limits s username (.obj a) patterns n ∧ Finds limits s username (.obj b) patterns n →
          Finds limits s username (.obj o) patterns n) ∧
        (¬ ((∃ e ∈ a, Matcher.OffersChoice e.2) ∧ ∃ e ∈ b, Matcher.OffersChoice e.2) →
          Finds limits s username (.obj o) patterns n →
          Finds limits s username (.obj a) patterns n ∧
            Finds limits s username (.obj b) patterns n) ∧
        ((∃ e ∈ a, Matcher.OffersChoice e.2) → (∃ e ∈ b, Matcher.OffersChoice e.2) →
          (Finds limits s username (.obj o) patterns n ↔
            Store.fitsInteger limits.resultsPerPage ∧ n ∈ s.nodes ∧ n.VisibleTo username ∧
            (∀ t ∈ ma.terms ++ mb.terms, t.holds n) ∧
            ∃ t ∈ ma.alternatives ++ mb.alternatives, t.holds n)) := by
  have hs : s.Keyed := ⟨distinct, h.kinds⟩
  obtain ⟨ma, mb, ha, hb, hshared⟩ := Matcher.compile_split hm hsplit
  obtain ⟨hfitA, hfitB⟩ := hshared.integersFit hfit
  obtain ⟨htextsA, htextsB⟩ := hshared.textsFit htexts
  refine ⟨ma, mb, ha, hb, fun hsize => ?_, fun n => ?_⟩
  · simp only [List.forall_mem_cons]
    exact ⟨exists_search huser hm hfit htexts hsize, exists_search huser ha hfitA htextsA hsize,
      exists_search huser hb hfitB htextsB hsize, by simp⟩
  rw [finds_iff hs huser hm hfit htexts hroom, finds_iff hs huser ha hfitA htextsA hroom,
    finds_iff hs huser hb hfitB htextsB hroom, ← Matcher.alternatives_ne_nil ha,
    ← Matcher.alternatives_ne_nil hb]
  refine ⟨?_, fun hone => ?_, fun hchoice _ => ?_⟩
  · rintro ⟨⟨hsize, hn, hvisible, hkeepsA⟩, _, _, _, hkeepsB⟩
    exact ⟨hsize, hn, hvisible, hshared.keeps_of_both n hkeepsA hkeepsB⟩
  · rintro ⟨hsize, hn, hvisible, hkeeps⟩
    have hnone : ma.alternatives = [] ∨ mb.alternatives = [] :=
      or_iff_not_imp_left.mpr (by simpa using hone)
    obtain ⟨hkeepsA, hkeepsB⟩ := hshared.both_of_keeps n hnone hkeeps
    exact ⟨⟨hsize, hn, hvisible, hkeepsA⟩, hsize, hn, hvisible, hkeepsB⟩
  · rw [hshared.keeps_pooled n hchoice]

end Nodes

instance (m : Matcher) : Decidable m.IntegersFit :=
  decidable_of_iff (∀ e ∈ m.terms ++ m.alternatives,
      e.number?.all fun v => (Query.Parameter.number v).fault?.isNone) <| by
    refine forall₂_congr fun e _ => ?_
    rcases e.number? with _ | (k | x)
    · simp
    · simp [Query.Parameter.fault?, Store.fitsInteger]
    · simp [Query.Parameter.fault?]

namespace Sample

/-- No file of the shelf is so large or so small. -/
def sizes : RawText × Json :=
  ("size", .obj [("$or", .arr [.obj [("$gt", .num (.int 100))], .obj [("$lt", .num (.int 3))]])])

def dates : RawText × Json :=
  ("createdAt", .obj [("$or",
    .arr [.obj [("$gt", .num (.int 0))], .obj [("$lt", .num (.int (-1)))]])])

def owned : RawText × Json := ("owner", .str "anna")

def dated : Matcher where
  terms := [.equals "owner" (.str "anna")]
  alternatives := [.range "createdAt" "$gt" (.int 0), .range "createdAt" "$lt" (.int (-1))]

end Sample

theorem Nodes.search_splits_sample :
    Reachable Call.Fresh Sample.shelf ∧ Sample.shelf.hasUser "anna" ∧
    Matcher.compile {} (.obj [Sample.dates, Sample.owned]) .null = .ok Sample.dated ∧
    Sample.dated.IntegersFit ∧ Sample.dated.TextsFit ∧ ∀ n,
      Finds {} Sample.shelf "anna" (.obj [Sample.dates, Sample.owned]) .null n →
        Finds {} Sample.shelf "anna" (.obj [Sample.dates]) .null n ∧
          Finds {} Sample.shelf "anna" (.obj [Sample.owned]) .null n := by
  have huser : Sample.shelf.hasUser "anna" := rfl
  have hm : Matcher.compile {} (.obj [Sample.dates, Sample.owned]) .null = .ok Sample.dated := rfl
  have hfit : Sample.dated.IntegersFit := by decide
  have htexts : Sample.dated.TextsFit := by decide
  have hsplit : [Sample.dates, Sample.owned].Perm ([Sample.dates] ++ [Sample.owned]) := .refl _
  obtain ⟨_, _, _, _, _, hsplits⟩ := Nodes.search_splits Sample.shelf_reachable (by decide) huser
    hm hfit htexts hsplit (by decide)
  refine ⟨Sample.shelf_reachable, huser, hm, hfit, htexts, fun n => (hsplits n).2.1 ?_⟩
  simp [Matcher.OffersChoice, Sample.owned]

/-- A file that none of the alternatives of a field allows is found once another field has some. -/
theorem Nodes.alternatives_pooled_sample :
    Reachable Call.Fresh Sample.shelf ∧ (Sample.shelf.nodes.map Node.id).Nodup ∧
    Sample.shelf.hasUser "anna" ∧ Sample.shelf.nodes.length ≤ (100 : Int) ∧
    (∃ m, Matcher.compile {} (.obj [Sample.sizes, Sample.dates]) .null = .ok m ∧
      m.IntegersFit) ∧
    Finds {} Sample.shelf "anna" (.obj [Sample.sizes, Sample.dates]) .null (.file Sample.track) ∧
    ¬ Finds {} Sample.shelf "anna" (.obj [Sample.sizes]) .null (.file Sample.track) := by
  refine ⟨Sample.shelf_reachable, by decide, rfl, by decide, ⟨_, rfl, by decide⟩, ?_, ?_⟩
  · exact ⟨[.file Sample.track], rfl, List.mem_singleton_self _⟩
  · rintro ⟨found, hfound, hmem⟩
    cases hfound
    exact absurd hmem List.not_mem_nil

end FileShare

import FileShare.Proofs.Reading.Steps

/-! # Refused patterns

Besides a malformed pattern the reader refuses three things, and each stands in the pattern: a
bound of a repetition that has too many digits or is too large, and options for the whole pattern
that choose both alphabets.
-/
namespace FileShare.Pattern
open Reader

variable {source : List Token}

/-! ## Groups -/

theorem groupCount_keeps : Keeps source groupCount := Keeps.get.bind fun _ => .pure _

theorem groupWidth?_keeps (g : Nat) : Keeps source (groupWidth? g) := by
  unfold groupWidth?
  split
  · exact .pure _
  · exact Keeps.get.bind fun _ => .pure _

theorem openGroup_keeps (name : Option String) : Keeps source (openGroup name) := by
  have keepsNames (f : Reader → List (String × Nat)) (g : Nat) :
      Keeps source (do modify fun r => { r with names := f r }; return g) :=
    .bind (.modify (fun _ => rfl) fun _ => rfl) fun _ => .pure g
  refine groupCount_keeps.bind fun g => ?_
  refine Keeps.bind (.modify (fun _ => rfl) fun _ => rfl) fun _ => ?_
  dsimp only
  split
  · exact Keeps.get.bind fun r => .check (keepsNames _ g)
  · exact .pure _

theorem closeGroup_keeps (g : Nat) (body : Node) : Keeps source (closeGroup g body) :=
  .modify (fun _ => rfl) fun _ => rfl

theorem checkLookbehind_keeps (g : Nat) : Keeps source (checkLookbehind g) := by
  refine Keeps.get.bind fun r => ?_
  split
  · refine (groupWidth?_keeps g).bind fun w => .check ?_
    split
    · exact .malformed
    · exact .pure _
  · exact .pure _

theorem reference_keeps (g : Nat) : Keeps source (reference g) :=
  groupCount_keeps.bind fun _ => .check <| (groupWidth?_keeps g).bind fun _ => .check <|
    (checkLookbehind_keeps g).bind fun _ => .pure _

/-! ## Escapes -/

theorem hexEscape_keeps (count : Nat) : Keeps source (hexEscape count) :=
  (takeUpTo_keeps _ _).bind fun _ => .check <| .check <| .pure _

theorem namedEscape_keeps : Keeps source namedEscape := by
  refine (expect_keeps _).bind fun _ => (nameUntil_keeps _).bind fun name => ?_
  split
  · exact .pure _
  · exact .malformed

theorem codeEscape?_keeps {c : Char} {code : ReaderM Nat} (h : codeEscape? c = some code) :
    Keeps source code := by
  unfold codeEscape? at h
  split at h
  · cases h
    exact hexEscape_keeps 2
  · cases h
    exact hexEscape_keeps 4
  · cases h
    exact hexEscape_keeps 8
  · cases h
    exact namedEscape_keeps
  · cases h

theorem literalEscape_keeps (c : Char) : Keeps source (literalEscape c) := by
  unfold literalEscape
  split
  · exact .malformed
  · exact .pure _

theorem setEscape_keeps (c : Char) : Keeps source (setEscape c) := by
  unfold setEscape
  split
  · exact .pure _
  · exact .pure _
  · rename_i code hcode _ _
    exact (codeEscape?_keeps hcode).bind fun _ => .pure _
  · split
    · exact (takeUpTo_keeps _ _).bind fun _ => .check <| .pure _
    · split
      · exact .malformed
      · exact (literalEscape_keeps c).bind fun _ => .pure _

theorem digitEscape_keeps (c : Char) : Keeps source (digitEscape c) := by
  unfold digitEscape
  dsimp only
  split
  · exact (takeUpTo_keeps _ _).bind fun _ => .pure _
  · refine (takeUpTo_keeps _ _).bind fun digits => ?_
    split
    · split
      · refine (takeUpTo_keeps _ _).bind fun more => ?_
        split
        · exact .check <| .pure _
        · exact reference_keeps _
      · exact reference_keeps _
    · exact reference_keeps _

theorem escape_keeps (c : Char) : Keeps source (escape c) := by
  unfold escape
  split
  · exact .pure _
  · exact .pure _
  · exact .pure _
  · rename_i code hcode _ _ _
    exact (codeEscape?_keeps hcode).bind fun _ => .pure _
  · split
    · exact digitEscape_keeps c
    · exact (literalEscape_keeps c).bind fun _ => .pure _

/-! ## Sets -/

theorem setMember_keeps (t : Token) : Keeps source (setMember t) := by
  cases t with
  | plain c => exact .pure _
  | escaped c => exact setEscape_keeps c
  | surrogate half => exact .pure _
  | dangling => exact .malformed

theorem setItems_keeps (fuel : Nat) (items : List SetItem) :
    Keeps source (setItems fuel items) := by
  induction fuel generalizing items with
  | zero => exact .malformed
  | succ fuel ih =>
    refine next_keeps.bind fun t => ?_
    split
    · exact .malformed
    · dsimp only
      split
      · exact .pure _
      · refine (setMember_keeps _).bind fun item => (accept_keeps '-').bind fun ranged => ?_
        split
        · refine next_keeps.bind fun last => ?_
          split
          · exact .malformed
          · split
            · exact .pure _
            · refine (setMember_keeps _).bind fun item' => ?_
              split
              · exact .check <| ih _
              · exact .malformed
        · exact ih _

theorem bracketSet_keeps : Keeps source bracketSet := by
  refine (accept_keeps '^').bind fun negated => Keeps.get.bind fun here =>
    (setItems_keeps _ _).bind fun items => ?_
  dsimp only
  split
  · exact .pure _
  · exact .pure _

/-! ## Repetitions -/

theorem repetitionCount?_step {lo hi digits : List Char} {P : Reader → Prop}
    (bounds : WritesBounds source lo hi) (bound : digits ∈ [lo, hi]) :
    Step source P (repetitionCount? digits) fun _ => P := by
  unfold repetitionCount?
  dsimp only
  split
  · exact .pure fun _ h => h
  · refine .check (.numberTooLong bounds bound) fun _ => ?_
    refine .check (.repetitionTooLarge bounds bound) fun _ => ?_
    exact .pure fun _ h => h

theorem braces_step : Step source (At source ['\x7b']) braces fun _ => At source [] := by
  refine peek_step.bind fun t => ?_
  split
  · exact .pure fun _ h => h.1.forget
  refine Step.get.bind fun here => .of_fact fun hhere => ?_
  refine Step.bind ((takeAll_step _).pre fun _ h => h.1) fun lo =>
    .of_fact fun hlo => (accept_step ',').bind fun parted => ?_
  -- What comes after the upper bound is the same whether it was written or is the lower one.
  extract_lets close
  have hclose (hi : List Char) (hhi : ∀ d ∈ hi, isDecimalDigit d) {text : List Char}
      (htext : BoundsText lo hi text) :
      Step source (At source text) (close hi) fun _ => At source [] := by
    refine (accept_step '\x7d').bind fun closed => ?_
    split
    · -- Only here both bounds are closed, so that a refusal of either has its reason.
      intro r hr
      have bounds : WritesBounds source lo hi := ⟨hlo, hhi, text, htext, hr.writes⟩
      refine ((repetitionCount?_step bounds (by simp)).bind fun least =>
        (repetitionCount?_step bounds (by simp)).bind fun most => ?_) r hr.forget
      dsimp only
      split
      · exact Keeps.check <| .pure _
      · exact Keeps.pure _
    · exact (Step.set hhere.1.forget).bind fun _ => .pure fun _ h => h
  split
  · refine (takeAll_step _).bind fun hi => .of_fact fun hhi => ?_
    exact (hclose hi hhi (.between lo hi)).pre fun r h => by simpa using h
  · rw [pure_bind]
    exact hclose lo hlo (.exact lo)

theorem appetiteMark_keeps : Keeps source appetiteMark := by
  refine (accept_keeps '?').bind fun isLazy => ?_
  split
  · exact .pure _
  · refine (accept_keeps '+').bind fun possessive => ?_
    split
    · exact .pure _
    · exact .pure _

theorem repeatLast_keeps (least : Nat) (most : Option Nat) (pieces : List Piece) :
    Keeps source (repeatLast least most pieces) := by
  have marked (piece : Piece) (more : List Piece) : Keeps source (do
      let appetite ← appetiteMark
      modify fun r => { r with sawLoop := true }
      return .node (.loop least most appetite (.seq piece.parts)) :: more) :=
    appetiteMark_keeps.bind fun _ => .bind (.modify (fun _ => rfl) fun _ => rfl) fun _ => .pure _
  cases pieces with
  | nil => exact .malformed
  | cons piece more =>
    cases piece with
    | node n =>
      unfold repeatLast
      exact .check (marked (.node n) more)
    | group parts => exact marked (.group parts) more

/-! ## Options -/

structure TurnsOn (letters : List Char) (on : Options) : Prop where
  known : ∀ l ∈ letters, (optionOf? l).isSome
  ascii : on.ascii → 'a' ∈ letters
  unicode : on.unicode → 'u' ∈ letters

theorem TurnsOn.none : TurnsOn [] .none where
  known := nofun
  ascii := nofun
  unicode := nofun

theorem optionOf?_letter {c : Char} {o : Options} (h : optionOf? c = some o) :
    (o.ascii → c = 'a') ∧ (o.unicode → c = 'u') := by
  unfold optionOf? at h
  split at h <;> cases h <;> simp

theorem TurnsOn.append {letters : List Char} {on o : Options} {c : Char} (h : TurnsOn letters on)
    (hc : optionOf? c = some o) : TurnsOn (letters ++ [c]) (on.union o) where
  known := by
    intro l hl
    rcases List.mem_append.mp hl with hl | hl
    · exact h.known l hl
    · rw [List.mem_singleton.mp hl, hc]
      rfl
  ascii := by
    intro hascii
    rcases Bool.or_eq_true_iff.mp hascii with hon | ho
    · exact List.mem_append_left _ (h.ascii hon)
    · simp [(optionOf?_letter hc).1 ho]
  unicode := by
    intro hunicode
    rcases Bool.or_eq_true_iff.mp hunicode with hon | ho
    · exact List.mem_append_left _ (h.unicode hon)
    · simp [(optionOf?_letter hc).2 ho]

/-- The letters of options and the character after them. -/
def AtMark (source : List Token) (found : Options × Char) (r : Reader) : Prop :=
  ∃ letters, TurnsOn letters found.1 ∧ At source ('(' :: '?' :: letters ++ [found.2]) r

theorem optionsOn_step (fuel : Nat) {letters : List Char} {c : Char} {on : Options}
    (h : TurnsOn letters on) :
    Step source (At source ('(' :: '?' :: letters ++ [c])) (optionsOn fuel c on)
      (AtMark source) := by
  induction fuel generalizing letters c on with
  | zero => exact .malformed
  | succ fuel ih =>
    unfold optionsOn
    split
    · exact .malformed
    · rename_i o ho
      have hmore := h.append ho
      refine .check (fun _ => .malformed) fun _ => next_step.bind fun t => ?_
      split
      · rename_i d
        -- The letter that was at the mark joins the letters, and its place is taken by the next.
        have hat : ∀ r, Passed source ('(' :: '?' :: letters ++ [c]) (some (.plain d)) r →
            At source ('(' :: '?' :: (letters ++ [c]) ++ [d]) r :=
          fun r hr => by simpa using hr.1 d rfl
        split
        · exact .pure fun r hr => ⟨letters ++ [c], hmore, hat r hr⟩
        · exact (ih hmore).pre hat
      · exact .malformed

theorem optionsOff_keeps (fuel : Nat) (off : Options) : Keeps source (optionsOff fuel off) := by
  induction fuel generalizing off with
  | zero => exact .malformed
  | succ fuel ih =>
    refine next_keeps.bind fun t => ?_
    split
    · split
      · exact .malformed
      · refine .check <| (accept_keeps ':').bind fun closed => ?_
        split
        · exact .pure _
        · exact ih _
    · exact .malformed

/-- Options for the whole pattern are in force once their parenthesis is closed. -/
theorem AtMark.turnOn {r : Reader} {on : Options} (h : AtMark source (on, ')') r) :
    At source [] { r with options := r.options.union on } := by
  obtain ⟨letters, hletters, hat⟩ := h
  have hset (letter : Char) (hletter : letter ∈ letters) : SetsOption source letter :=
    ⟨letters, hletter, hletters.known, hat.writes⟩
  refine ⟨hat.forget.rest, fun hascii => ?_, fun hunicode => ?_⟩
  · rcases Bool.or_eq_true_iff.mp hascii with hbefore | hon
    · exact hat.ascii hbefore
    · exact hset 'a' (hletters.ascii hon)
  · rcases Bool.or_eq_true_iff.mp hunicode with hbefore | hon
    · exact hat.unicode hbefore
    · exact hset 'u' (hletters.unicode hon)

theorem optionMarks_step (c : Char) :
    Step source (At source ['(', '?', c]) (optionMarks c) fun _ => At source [] := by
  refine Step.get.bind fun here => ?_
  extract_lets fuel goOn
  have hgoOn (found : Options × Char) :
      Step source (AtMark source found) (goOn found) fun _ => At source [] := by
    obtain ⟨on, stop⟩ := found
    unfold goOn
    dsimp only
    split
    · rename_i hstop
      subst hstop
      exact (Step.modify fun _ h => AtMark.turnOn h).bind fun _ => .pure fun _ h => h
    · refine Step.pre (P := At source []) (Keeps.check ?_) fun r ⟨_, _, hat⟩ => hat.forget
      split
      · exact (optionsOff_keeps _ _).bind fun off => .check <| .pure _
      · exact (Keeps.pure _).bind fun off => .check <| .pure _
  split
  · rename_i hc
    subst hc
    rw [pure_bind]
    exact (hgoOn (.none, '-')).pre fun r h => ⟨[], .none, h.2⟩
  · exact ((optionsOn_step fuel .none).pre fun _ h => h.2).bind hgoOn

theorem conditionalGroup_keeps (cs : List Char) : Keeps source (conditionalGroup cs) := by
  unfold conditionalGroup
  split
  · refine Keeps.get.bind fun r => ?_
    split
    · exact .pure _
    · exact .malformed
  · split
    · exact .malformed
    · exact .malformed
    · exact .bind (.modify (fun _ => rfl) fun _ => rfl) fun _ => .pure _

theorem groupName_keeps (stop : Char) : Keeps source (groupName stop) := by
  refine (nameUntil_keeps stop).bind fun cs => ?_
  split
  · exact .pure _
  · exact .malformed

/-! ## The grammar -/

/-- The readers of the parts of a pattern, which call one another, under one bound. A group is read
just after its parenthesis. -/
structure WalksUpTo (source : List Token) (fuel : Nat) : Prop where
  alternatives : ∀ verbose outermost, Keeps source (alternatives fuel verbose outermost)
  moreAlternatives : ∀ verbose outermost, Keeps source (moreAlternatives fuel verbose outermost)
  sequence : ∀ verbose allowed pieces, Keeps source (sequence fuel verbose allowed pieces)
  group : ∀ verbose allowed pieces,
    Step source (At source ['(']) (group fuel verbose allowed pieces) fun _ => At source []
  assertion : ∀ verbose, Keeps source (assertion fuel verbose)
  behind : ∀ verbose negated, Keeps source (behind fuel verbose negated)

theorem walksUpTo_zero : WalksUpTo source 0 where
  alternatives _ _ := .malformed
  moreAlternatives _ _ := .malformed
  sequence _ _ _ := .malformed
  group _ _ _ := .malformed
  assertion _ := .malformed
  behind _ _ := .malformed

section step
variable {fuel : Nat} (ih : WalksUpTo source fuel)
include ih

theorem alternatives_keeps_succ (verbose outermost : Bool) :
    Keeps source (alternatives (fuel + 1) verbose outermost) := by
  rw [alternatives]
  exact (ih.sequence _ _ _).bind fun _ => (ih.moreAlternatives _ _).bind fun _ => .pure _

theorem moreAlternatives_keeps_succ (verbose outermost : Bool) :
    Keeps source (moreAlternatives (fuel + 1) verbose outermost) := by
  rw [moreAlternatives]
  refine (accept_keeps '|').bind fun found => ?_
  split
  · exact Keeps.get.bind fun _ => (ih.sequence _ _ _).bind fun _ =>
      (ih.moreAlternatives _ _).bind fun _ => .pure _
  · exact .pure _

theorem assertion_keeps_succ (verbose : Bool) : Keeps source (assertion (fuel + 1) verbose) := by
  rw [assertion]
  exact (ih.alternatives _ _).bind fun _ => (expect_keeps _).bind fun _ => .pure _

theorem behind_keeps_succ (verbose negated : Bool) :
    Keeps source (behind (fuel + 1) verbose negated) := by
  rw [behind]
  refine Keeps.get.bind fun here => ?_
  extract_lets outer goOn
  have hgoOn : Keeps source (goOn ⟨⟩) := by
    refine (ih.alternatives _ _).bind fun parts => ?_
    refine .bind (.modify (fun _ => rfl) fun _ => rfl) fun _ => ?_
    refine (expect_keeps _).bind fun _ => Keeps.get.bind fun r => ?_
    dsimp only
    split
    · exact .bind (.modify (fun _ => rfl) fun _ => rfl) fun _ => .pure _
    · exact .pure _
  split
  · exact groupCount_keeps.bind fun _ => .bind (.modify (fun _ => rfl) fun _ => rfl) fun _ => hgoOn
  · exact hgoOn

theorem sequence_keeps_succ (verbose allowed : Bool) (pieces : List Piece) :
    Keeps source (sequence (fuel + 1) verbose allowed pieces) := by
  rw [sequence]
  have node {m : ReaderM Node} (h : Keeps source m) :
      Keeps source (do sequence fuel verbose allowed (.node (← m) :: pieces)) :=
    h.bind fun _ => ih.sequence _ _ _
  have repeated (least : Nat) (most : Option Nat) :
      Keeps source (do sequence fuel verbose allowed (← repeatLast least most pieces)) :=
    (repeatLast_keeps least most pieces).bind fun _ => ih.sequence _ _ _
  refine Step.bind peek_step fun t => ?_
  split
  · exact .pure fun _ h => h.1
  · rename_i c
    exact (skip_head_step _).bind fun _ => (node (escape_keeps c)).passed
  · exact (skip_head_step _).bind fun _ => (ih.sequence _ _ _).passed
  · exact .malformed
  · rename_i c
    refine .ite (fun _ => .pure fun _ h => h.1) fun _ => (skip_step c).bind fun _ => ?_
    refine .ite (fun _ => (ih.sequence _ _ _).forget) fun _ => ?_
    refine .ite (fun _ => Keeps.forget <| Keeps.get.bind fun _ => (skipPast_keeps _ _).bind fun _ =>
      ih.sequence _ _ _) fun _ => ?_
    refine .ite (fun _ => (node bracketSet_keeps).forget) fun _ => ?_
    refine .ite (fun _ => (ih.sequence _ _ _).forget) fun _ => ?_
    refine .ite (fun _ => (ih.sequence _ _ _).forget) fun _ => ?_
    refine .ite (fun _ => (ih.sequence _ _ _).forget) fun _ => ?_
    refine .ite (fun hc => hc ▸ ih.group _ _ _) fun _ => ?_
    refine .ite (fun _ => (repeated _ _).forget) fun _ => ?_
    refine .ite (fun _ => (repeated _ _).forget) fun _ => ?_
    refine .ite (fun _ => (repeated _ _).forget) fun _ => ?_
    refine .ite (fun hc => ?_) fun _ => (ih.sequence _ _ _).forget
    subst hc
    refine braces_step.bind fun bounds => ?_
    split
    · exact ih.sequence _ _ _
    · exact repeated _ _

theorem group_step_succ (verbose allowed : Bool) (pieces : List Piece) :
    Step source (At source ['(']) (group (fuel + 1) verbose allowed pieces)
      fun _ => At source [] := by
  have goOn (piece : Piece) : Keeps source (sequence fuel verbose allowed (piece :: pieces)) :=
    ih.sequence _ _ _
  have captured (name : Option String) : Keeps source (do
      let g ← openGroup name
      let body := Node.seq (← alternatives fuel verbose false)
      expect ')'
      closeGroup g body
      return Piece.node (.capture g body)) :=
    (openGroup_keeps name).bind fun g => (ih.alternatives _ _).bind fun _ =>
      (expect_keeps _).bind fun _ => (closeGroup_keeps g _).bind fun _ => .pure _
  have closed {inside : Bool} {piece : List Node → Piece} : Keeps source (do
      let parts ← alternatives fuel inside false
      expect ')'
      sequence fuel verbose allowed (piece parts :: pieces)) :=
    (ih.alternatives _ _).bind fun _ => (expect_keeps _).bind fun _ => goOn _
  rw [group]
  refine (accept_step '?').bind fun marked => .ite (fun hmarked => ?_) fun _ => ?_
  · subst hmarked
    change Step source (At source ['(', '?']) _ _
    refine next_step.bind fun t => ?_
    split
    · refine Keeps.passed <| (accept_keeps '<').bind fun naming => ?_
      split
      · exact (groupName_keeps _).bind fun _ => (captured _).bind goOn
      · refine (accept_keeps '=').bind fun referring => ?_
        split
        · refine (groupName_keeps _).bind fun _ => Keeps.get.bind fun _ => ?_
          split
          · exact .malformed
          · exact (reference_keeps _).bind fun _ => goOn _
        · exact .malformed
    · exact closed.passed
    · exact closed.passed
    · refine Keeps.passed <| Keeps.get.bind fun _ => (skipPast_keeps _ _).bind fun ended => ?_
      split
      · exact ih.sequence _ _ _
      · exact .malformed
    · exact Keeps.passed <| (ih.assertion _).bind fun _ => goOn _
    · exact Keeps.passed <| (ih.assertion _).bind fun _ => goOn _
    · refine Keeps.passed <| next_keeps.bind fun t => ?_
      split
      · exact (ih.behind _ _).bind fun _ => goOn _
      · exact (ih.behind _ _).bind fun _ => goOn _
      · exact .malformed
    · refine Keeps.passed <| (nameUntil_keeps _).bind fun _ =>
        (conditionalGroup_keeps _).bind fun g => (checkLookbehind_keeps g).bind fun _ =>
        (ih.sequence _ _ _).bind fun yes => (accept_keeps '|').bind fun parted => ?_
      have finish (no : List Node) : Keeps source (do
          expect ')'
          sequence fuel verbose allowed (.node (.conditional g (.seq yes) (.seq no)) :: pieces)) :=
        (expect_keeps _).bind fun _ => goOn _
      dsimp only
      split
      · exact (ih.sequence _ _ _).bind finish
      · exact (Keeps.pure _).bind finish
    · rename_i c _ _ _ _ _ _ _ _
      refine ((optionMarks_step c).pre fun _ h => h.1 c rfl).bind fun marks => ?_
      split
      · exact Keeps.check <| Keeps.get.bind fun _ => ih.sequence _ _ _
      · exact closed
    · exact .malformed
  · exact ((captured none).bind goOn).forget

end step

/-- The bound serves as the measure of an induction over all of them at once. -/
theorem walksUpTo (source : List Token) (fuel : Nat) : WalksUpTo source fuel := by
  induction fuel with
  | zero => exact walksUpTo_zero
  | succ fuel ih =>
    exact ⟨alternatives_keeps_succ ih, moreAlternatives_keeps_succ ih, sequence_keeps_succ ih,
      group_step_succ ih, assertion_keeps_succ ih, behind_keeps_succ ih⟩

theorem wholePattern_keeps : Keeps source wholePattern := by
  refine Keeps.bind checkHead_step fun _ => Keeps.get.bind fun start => ?_
  refine ((walksUpTo source _).alternatives _ _).bind fun parts => Step.get.bind fun r => ?_
  refine .of_fact fun hr => .check (fun conflict => ?_) fun _ => ?_
  · obtain ⟨hascii, hunicode⟩ := Bool.and_eq_true_iff.mp conflict
    exact .conflictingAlphabets (hr.ascii hascii) (hr.unicode hunicode)
  · exact Keeps.check <| .check <| .check <| .check <| .pure _

/-- Read under options that choose no alphabet, a pattern is refused for what stands in it. -/
theorem refusedBy_of_ofText {options : Options} {text : RawText} {e : Refusal}
    (hoptions : options.choosesAlphabet = false) (h : ofText options text = .error e) :
    RefusedBy (tokens text.points) e := by
  obtain ⟨hascii, hunicode⟩ := Bool.or_eq_false_iff.mp hoptions
  have hstart : At (tokens text.points) [] { rest := tokens text.points, options } :=
    ⟨List.suffix_refl _, fun h => by simp [hascii] at h, fun h => by simp [hunicode] at h⟩
  have hwhole := wholePattern_keeps _ hstart
  unfold ofText at h
  cases hrun : wholePattern.run { rest := tokens text.points, options } with
  | ok found =>
    rw [hrun] at h
    cases h
  | error e' =>
    rw [hrun] at h hwhole
    cases h
    exact hwhole

end FileShare.Pattern

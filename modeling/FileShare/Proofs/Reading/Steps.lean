import FileShare.Pattern.Parser

/-! # Steps of the pattern reader

A reader stands somewhere in the tokens of its pattern. What it has just read stays known for as
long as a refusal may rest on it: the bounds of a repetition, the letters of options that hold for
the whole pattern. Every step is specified by what it needs to know, what is known after it and what
warrants its refusals.
-/
namespace FileShare.Pattern

/-- The characters stand in the pattern one after another and for themselves. -/
def Writes (source : List Token) (cs : List Char) : Prop := cs.map Token.plain <:+: source

/-- The letter stands among options for the whole pattern. -/
def SetsOption (source : List Token) (letter : Char) : Prop :=
  ∃ letters, letter ∈ letters ∧ (∀ l ∈ letters, (optionOf? l).isSome) ∧
    Writes source ('(' :: '?' :: letters ++ [')'])

/-- The bounds of a repetition up to the closing brace: one number is both bounds. -/
inductive BoundsText : (lo hi text : List Char) → Prop where
  | exact (digits : List Char) : BoundsText digits digits ('\x7b' :: digits)
  | between (lo hi : List Char) : BoundsText lo hi ('\x7b' :: lo ++ ',' :: hi)

def WritesBounds (source : List Token) (lo hi : List Char) : Prop :=
  (∀ d ∈ lo, isDecimalDigit d) ∧ (∀ d ∈ hi, isDecimalDigit d) ∧
    ∃ text, BoundsText lo hi text ∧ Writes source (text ++ ['\x7d'])

/-- What a pattern has that a refusal speaks of. -/
inductive RefusedBy (source : List Token) : Refusal → Prop where
  | malformed : RefusedBy source .malformed
  | numberTooLong {lo hi digits : List Char} (bounds : WritesBounds source lo hi)
      (bound : digits ∈ [lo, hi]) (long : 4300 < digits.length) : RefusedBy source .numberTooLong
  | repetitionTooLarge {lo hi digits : List Char} (bounds : WritesBounds source lo hi)
      (bound : digits ∈ [lo, hi]) (large : repetitionLimit ≤ numberOf 10 digits) :
      RefusedBy source .repetitionTooLarge
  | conflictingAlphabets (ascii : SetsOption source 'a') (unicode : SetsOption source 'u') :
      RefusedBy source .conflictingAlphabets

/-- The reader has just read the given characters, and its options are written before them. -/
structure At (source : List Token) (before : List Char) (r : Reader) : Prop where
  rest : before.map Token.plain ++ r.rest <:+ source
  ascii : r.options.ascii → SetsOption source 'a'
  unicode : r.options.unicode → SetsOption source 'u'

/-- Started where `P` holds, the step ends where `Q` holds or refuses what the pattern has. -/
def Step (source : List Token) (P : Reader → Prop) (m : ReaderM α) (Q : α → Reader → Prop) : Prop :=
  ∀ r, P r → match m.run r with
    | .ok (a, r') => Q a r'
    | .error e => RefusedBy source e

/-- A step of which nothing is known but that the reader goes on in its pattern. -/
def Keeps (source : List Token) (m : ReaderM α) : Prop :=
  Step source (At source []) m fun _ => At source []

variable {source : List Token} {before : List Char} {α β : Type}

theorem At.forget {r : Reader} (h : At source before r) : At source [] r where
  rest := (List.suffix_append _ _).trans h.rest
  ascii := h.ascii
  unicode := h.unicode

theorem At.writes {r : Reader} (h : At source before r) : Writes source before :=
  (List.prefix_append _ _).isInfix.trans h.rest.isInfix

theorem At.congr {r r' : Reader} (h : At source before r) (hrest : r'.rest = r.rest)
    (hoptions : r'.options = r.options) : At source before r' where
  rest := hrest ▸ h.rest
  ascii := hoptions ▸ h.ascii
  unicode := hoptions ▸ h.unicode

/-! ## Composition -/

namespace Step
variable {P P' : Reader → Prop} {Q Q' : α → Reader → Prop} {R : β → Reader → Prop} {m : ReaderM α}

theorem pure {a : α} (h : ∀ r, P r → Q a r) : Step source P (pure a) Q := h

theorem throw {e : Refusal} (h : ∀ r, P r → RefusedBy source e) :
    Step source P (throw e : ReaderM α) Q := h

theorem malformed : Step source P (Reader.malformed : ReaderM α) Q := throw fun _ _ => .malformed

theorem get : Step source P get fun here r => P here ∧ P r := fun _ h => ⟨h, h⟩

theorem modify {f : Reader → Reader} {Q : PUnit → Reader → Prop} (h : ∀ r, P r → Q ⟨⟩ (f r)) :
    Step source P (modify f) Q := h

theorem set {r : Reader} {Q : PUnit → Reader → Prop} (h : Q ⟨⟩ r) :
    Step source P (set r : ReaderM PUnit) Q := fun _ _ => h

theorem bind {f : α → ReaderM β} (hm : Step source P m Q) (hf : ∀ a, Step source (Q a) (f a) R) :
    Step source P (m >>= f) R := by
  intro r hr
  have hfirst := hm r hr
  rw [StateT.run_bind]
  cases hrun : m.run r with
  | error e =>
    rw [hrun] at hfirst
    exact hfirst
  | ok found =>
    rw [hrun] at hfirst
    exact hf found.1 found.2 hfirst

theorem ite {c : Prop} [Decidable c] {m' : ReaderM α} (h : c → Step source P m Q)
    (h' : ¬c → Step source P m' Q) : Step source P (if c then m else m') Q := by
  split
  · exact h ‹_›
  · exact h' ‹_›

theorem check {c : Prop} [Decidable c] {e : Refusal} {go : PUnit → ReaderM α}
    (hc : c → RefusedBy source e) (h : ¬c → Step source P (go ⟨⟩) Q) :
    Step source P (if c then MonadExcept.throw e >>= go else go ⟨⟩) Q := by
  split
  · rename_i holds
    exact bind (Q := fun _ _ => False) (throw fun _ _ => hc holds) fun _ _ h => h.elim
  · exact h ‹_›

theorem pre (h : Step source P m Q) (hP : ∀ r, P' r → P r) : Step source P' m Q :=
  fun r hr => h r (hP r hr)

theorem post (h : Step source P m Q) (hQ : ∀ a r, Q a r → Q' a r) : Step source P m Q' := by
  intro r hr
  have hstep := h r hr
  cases hrun : m.run r with
  | error e =>
    rw [hrun] at hstep
    exact hstep
  | ok found =>
    rw [hrun] at hstep
    exact hQ found.1 found.2 hstep

/-- What is known of values alone may be taken out of the condition. -/
theorem of_fact {p : Prop} (h : p → Step source P m Q) : Step source (fun r => p ∧ P r) m Q :=
  fun r hr => h hr.1 r hr.2

end Step

namespace Keeps
variable {m : ReaderM α}

theorem pure (a : α) : Keeps source (pure a) := Step.pure fun _ h => h

theorem malformed : Keeps source (Reader.malformed : ReaderM α) := Step.malformed

theorem get : Keeps source get := Step.get.post fun _ _ h => h.2

theorem modify {f : Reader → Reader} (hrest : ∀ r, (f r).rest = r.rest)
    (hoptions : ∀ r, (f r).options = r.options) : Keeps source (modify f) :=
  Step.modify fun r h => h.congr (hrest r) (hoptions r)

theorem bind {f : α → ReaderM β} (hm : Keeps source m) (hf : ∀ a, Keeps source (f a)) :
    Keeps source (m >>= f) := Step.bind hm hf

theorem check {c : Prop} [Decidable c] {go : PUnit → ReaderM α} (h : Keeps source (go ⟨⟩)) :
    Keeps source (if c then Reader.malformed >>= go else go ⟨⟩) :=
  Step.check (fun _ => .malformed) fun _ => h

theorem of_step {Q : α → Reader → Prop} (h : Step source (At source []) m Q)
    (hQ : ∀ a r, Q a r → At source [] r) : Keeps source m := h.post hQ

/-- A step that needs to know nothing may be taken anywhere. -/
theorem forget (h : Keeps source m) : Step source (At source before) m fun _ => At source [] :=
  h.pre fun _ hr => hr.forget

end Keeps

/-! ## Tokens -/

open Reader

theorem peek_step {P : Reader → Prop} :
    Step source P peek fun t r => P r ∧ r.rest.head? = t := fun _ h => ⟨h, rfl⟩

theorem checkHead_step {P : Reader → Prop} : Step source P checkHead fun _ => P := by
  refine Step.get.bind fun here => ?_
  split
  · exact .malformed
  · exact .pure fun _ h => h.2

/-- The token that is skipped was read, if it stands for itself. -/
def Passed (source : List Token) (before : List Char) (t : Option Token) (r : Reader) : Prop :=
  (∀ c, t = some (.plain c) → At source (before ++ [c]) r) ∧ At source [] r

theorem Keeps.passed {m : ReaderM α} {t : Option Token} (h : Keeps source m) :
    Step source (Passed source before t) m fun _ => At source [] :=
  h.pre fun _ hr => hr.2

theorem skip_head_step (t : Option Token) :
    Step source (fun r => At source before r ∧ r.rest.head? = t) skip
      fun _ => Passed source before t := by
  refine (Step.modify ?_).bind fun _ => checkHead_step
  rintro r ⟨h, hhead⟩
  have hrest := h.rest
  refine ⟨?_, (List.tail_suffix r.rest).trans h.forget.rest, h.ascii, h.unicode⟩
  rintro c rfl
  obtain ⟨rest, hhead⟩ := List.head?_eq_some_iff.mp hhead
  exact ⟨by simpa [hhead] using hrest, h.ascii, h.unicode⟩

theorem skip_step (c : Char) :
    Step source (fun r => At source before r ∧ r.rest.head? = some (.plain c)) skip
      fun _ => At source (before ++ [c]) :=
  (skip_head_step (some (.plain c))).post fun _ _ h => h.1 c rfl

theorem next_step : Step source (At source before) next (Passed source before) :=
  peek_step.bind fun t => (skip_head_step t).bind fun _ => .pure fun _ h => h

theorem next_keeps : Keeps source next := .of_step next_step fun _ _ h => h.2

theorem accept_step (c : Char) : Step source (At source before) (accept c) fun found =>
    At source (if found then before ++ [c] else before) := by
  refine peek_step.bind fun t => ?_
  split
  · rename_i ht
    rw [ht]
    exact (skip_step c).bind fun _ => .pure fun _ h => h
  · exact .pure fun _ h => h.1

theorem accept_keeps (c : Char) : Keeps source (accept c) :=
  .of_step (accept_step c) fun _ _ h => h.forget

theorem expect_keeps (c : Char) : Keeps source (expect c) := by
  refine (accept_keeps c).bind fun found => ?_
  split
  · exact .pure _
  · exact .malformed

theorem takeUpTo_step (p : Char → Bool) (n : Nat) :
    Step source (At source before) (takeUpTo p n) fun cs r =>
      (∀ c ∈ cs, p c) ∧ At source (before ++ cs) r := by
  induction n generalizing before with
  | zero => exact .pure fun r h => ⟨nofun, by simpa using h⟩
  | succ n ih =>
    have hnone : ∀ t, Step source (fun r => At source before r ∧ r.rest.head? = t)
        (pure [] : ReaderM (List Char)) fun cs r =>
          (∀ c ∈ cs, p c) ∧ At source (before ++ cs) r :=
      fun _ => .pure fun r h => ⟨nofun, by simpa using h.1⟩
    refine peek_step.bind fun t => ?_
    split
    · rename_i c
      split
      · rename_i hc
        refine (skip_step c).bind fun _ => ih.bind fun cs => .pure fun r h => ⟨?_, ?_⟩
        · exact List.forall_mem_cons.mpr ⟨hc, h.1⟩
        · simpa using h.2
      · exact hnone _
    · exact hnone _

theorem takeUpTo_keeps (p : Char → Bool) (n : Nat) : Keeps source (takeUpTo p n) :=
  .of_step (takeUpTo_step p n) fun _ _ h => h.2.forget

theorem takeAll_step (p : Char → Bool) : Step source (At source before) (takeAll p) fun cs r =>
    (∀ c ∈ cs, p c) ∧ At source (before ++ cs) r :=
  Step.get.bind fun _ => (takeUpTo_step p _).pre fun _ h => h.2

theorem takeUntil_keeps (stop : Char) (fuel : Nat) (found : List Char) :
    Keeps source (takeUntil stop fuel found) := by
  induction fuel generalizing found with
  | zero => exact .malformed
  | succ fuel ih =>
    refine next_keeps.bind fun t => ?_
    split
    · exact .malformed
    · split
      · split
        · exact .malformed
        · exact .pure _
      · split
        · exact ih _
        · exact .malformed

theorem nameUntil_keeps (stop : Char) : Keeps source (nameUntil stop) :=
  Keeps.get.bind fun _ => takeUntil_keeps stop _ _

theorem skipPast_keeps (stop : Token) (fuel : Nat) : Keeps source (skipPast stop fuel) := by
  induction fuel with
  | zero => exact .pure _
  | succ fuel ih =>
    refine next_keeps.bind fun t => ?_
    split
    · exact .pure _
    · split
      · exact .pure _
      · exact ih

end FileShare.Pattern

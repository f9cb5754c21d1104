import FileShare.Json.Reader
import Mathlib.Data.List.TakeWhile

/-! # Refused JSON text

Every reader leaves an end of the text that it was given. So what one of them refuses stands in the
whole text, and a text is refused for a long integer only if it has one.
-/
namespace FileShare.Json

/-- A run of more digits than an integer may have stands in the text. -/
def HasLongInteger (cs : List CodePoint) : Prop :=
  ∃ digits, digits <:+: cs ∧ (∀ d ∈ digits, isDecimalDigit d) ∧ maxIntegerDigits < digits.length

/-- A reading of a text leaves an end of it and refuses no integer but a long one. -/
structure Reads {α : Type} (cs : List CodePoint) (x : Except ReadError (α × List CodePoint)) :
    Prop where
  rest : ∀ a rest, x = .ok (a, rest) → rest <:+ cs
  refusal : x = .error .integerTooLong → HasLongInteger cs

namespace Reads
variable {α β : Type} {cs ds rest : List CodePoint} {x : Except ReadError (α × List CodePoint)}

theorem ok (a : α) (h : rest <:+ cs) : Reads cs (.ok (a, rest)) where
  rest := by
    rintro _ _ ⟨⟩
    exact h
  refusal := nofun

theorem malformed (fault : Fault) (remaining : Nat) :
    Reads cs (.error (.malformed fault remaining) : Except ReadError (α × List CodePoint)) where
  rest := nofun
  refusal := nofun

theorem fail (fault : Fault) (ds : List CodePoint) : Reads (α := α) cs (Json.fail fault ds) :=
  malformed fault ds.length

theorem mono (h : Reads ds x) (hds : ds <:+ cs) : Reads cs x where
  rest a rest hx := (h.rest a rest hx).trans hds
  refusal hx := by
    obtain ⟨digits, hinfix, hdigits, hlong⟩ := h.refusal hx
    exact ⟨digits, hinfix.trans hds.isInfix, hdigits, hlong⟩

theorem bind (hx : Reads cs x) {f : α × List CodePoint → Except ReadError (β × List CodePoint)}
    (hf : ∀ a rest, rest <:+ cs → Reads cs (f (a, rest))) : Reads cs (x >>= f) := by
  cases x with
  | error e =>
    refine ⟨nofun, fun h => hx.refusal ?_⟩
    cases h
    rfl
  | ok found => exact hf found.1 found.2 (hx.rest found.1 found.2 rfl)

end Reads

open Reads

theorem skipSpace_suffix (cs : List CodePoint) : skipSpace cs <:+ cs := List.dropWhile_suffix _

theorem suffix_of_mark {cs rest rest' : List CodePoint} {c : CodePoint}
    (h : skipSpace rest = c :: rest') (hrest : rest <:+ cs) : rest' <:+ cs :=
  (List.suffix_cons c rest').trans (h ▸ (skipSpace_suffix rest).trans hrest)

/-! ## Strings -/

theorem readCodeUnit_reads (cs : List CodePoint) : Reads cs (readCodeUnit cs) := by
  unfold readCodeUnit
  dsimp only
  split
  · exact malformed _ _
  · split
    · exact ok _ (List.drop_suffix 4 cs)
    · exact malformed _ _

theorem lowHalfFollows?_suffix {cs more : List CodePoint} (h : lowHalfFollows? cs = some more) :
    more <:+ cs := by
  unfold lowHalfFollows? at h
  split at h
  · split at h
    · cases h
    · cases h
      exact (List.suffix_cons _ _).trans (List.suffix_cons _ _)
  · cases h

theorem readCodeEscape_reads (cs : List CodePoint) : Reads cs (readCodeEscape cs) := by
  refine (readCodeUnit_reads cs).bind fun unit rest hrest => ?_
  dsimp only
  split
  · split
    · rename_i more hmore
      have hmore := (lowHalfFollows?_suffix hmore).trans hrest
      refine ((readCodeUnit_reads more).mono hmore).bind fun low rest' hrest' => ?_
      dsimp only
      split
      · exact ok _ hrest'
      · exact ok _ hrest
    · exact ok _ hrest
  · exact ok _ hrest

theorem readEscape_reads (opened : Nat) (cs : List CodePoint) :
    Reads cs (readEscape opened cs) := by
  unfold readEscape
  split
  · exact malformed _ _
  · exact (readCodeEscape_reads _).mono (List.suffix_cons _ _)
  · split
    · exact ok _ (List.suffix_cons _ _)
    · exact malformed _ _

theorem readPoints_reads (opened fuel : Nat) (cs : List CodePoint) :
    Reads cs (readPoints opened fuel cs) := by
  induction fuel generalizing cs with
  | zero => exact malformed _ _
  | succ fuel ih =>
    cases cs with
    | nil => exact malformed _ _
    | cons c cs =>
      have htail : cs <:+ c :: cs := List.suffix_cons c cs
      rw [readPoints]
      split
      · exact ok _ htail
      · split
        · refine ((readEscape_reads opened cs).mono htail).bind fun e rest hrest => ?_
          refine ((ih rest).mono hrest).bind fun more rest' hrest' => ?_
          exact ok _ hrest'
        · split
          · exact Reads.fail _ _
          · exact ((ih cs).mono htail).bind fun more rest hrest => ok _ hrest

theorem readString_reads (cs : List CodePoint) : Reads cs (readString cs) :=
  (readPoints_reads _ _ cs).bind fun _ _ hrest => ok _ hrest

/-! ## Numbers and words -/

theorem integralDigits?_eq_some {cs digits rest : List CodePoint}
    (h : integralDigits? cs = some (digits, rest)) :
    digits ++ rest = cs ∧ ∀ d ∈ digits, isDecimalDigit d := by
  unfold integralDigits? at h
  split at h
  · cases h
  · rename_i c cs
    split at h
    · cases h
      rename_i hc
      refine ⟨rfl, fun d hd => ?_⟩
      rw [List.mem_singleton.mp hd, hc]
      rfl
    · split at h
      · rename_i hc
        cases h
        refine ⟨by simp, fun d hd => ?_⟩
        rcases List.mem_cons.mp hd with rfl | hd
        · exact hc
        · exact List.mem_takeWhile_imp hd
      · cases h

theorem fractionDigits_suffix (cs : List CodePoint) : (fractionDigits cs).2 <:+ cs := by
  unfold fractionDigits
  split
  · dsimp only
    split
    · exact List.suffix_refl _
    · exact (List.dropWhile_suffix _).trans (List.suffix_cons _ _)
  · exact List.suffix_refl _

theorem exponentSign_suffix (cs : List CodePoint) : (exponentSign cs).2 <:+ cs := by
  unfold exponentSign
  split
  · exact List.suffix_cons _ _
  · exact List.suffix_cons _ _
  · exact List.suffix_refl _

theorem exponentPart?_suffix {cs rest : List CodePoint} {e : Int}
    (h : exponentPart? cs = some (e, rest)) : rest <:+ cs := by
  unfold exponentPart? at h
  split at h
  · rename_i c cs
    split at h
    · dsimp only at h
      split at h
      · cases h
      · cases h
        exact (List.dropWhile_suffix _).trans
          ((exponentSign_suffix cs).trans (List.suffix_cons c cs))
    · cases h
  · cases h

theorem readNumber_reads (cs : List CodePoint) : Reads cs (readNumber cs) := by
  unfold readNumber
  split
  rename_i neg unsigned hsign
  have hunsigned : unsigned <:+ cs := by
    split at hsign
    · cases hsign
      exact List.suffix_cons _ _
    · cases hsign
      exact List.suffix_refl _
  split
  · exact Reads.fail _ _
  · rename_i integral rest hintegral
    obtain ⟨rfl, hdigits⟩ := integralDigits?_eq_some hintegral
    have hrest : rest <:+ cs := (List.suffix_append integral rest).trans hunsigned
    have hfraction := (fractionDigits_suffix rest).trans hrest
    split
    rename_i fraction rest' hread
    rw [hread] at hfraction
    split
    · rename_i hexponent
      exact ok _ ((exponentPart?_suffix hexponent).trans hfraction)
    · split
      · split
        · refine ⟨nofun, fun _ => ⟨integral, ?_, hdigits, ‹_›⟩⟩
          exact (List.prefix_append integral rest).isInfix.trans hunsigned.isInfix
        · exact ok _ hfraction
      · exact ok _ hfraction

theorem readWord?_suffix {cs rest : List CodePoint} {value : Json}
    (h : readWord? cs = some (value, rest)) : rest <:+ cs := by
  obtain ⟨⟨word, v⟩, -, hword⟩ := List.exists_of_findSome?_eq_some h
  obtain ⟨_, hafter, ⟨⟩⟩ := Option.map_eq_some_iff.mp hword
  rw [Text.eq_append_of_after? hafter]
  exact List.suffix_append _ _

theorem readScalar_reads (cs : List CodePoint) : Reads cs (readScalar cs) := by
  unfold readScalar
  split
  · rename_i found hword
    exact ok _ (readWord?_suffix hword)
  · exact (readNumber_reads cs).bind fun _ _ hrest => ok _ hrest

/-! ## Values -/

/-- The readers of values, items and entries, which call one another, under one bound. -/
structure ReadsUpTo (fuel : Nat) : Prop where
  value : ∀ cs, Reads cs (readValue fuel cs)
  items : ∀ cs, Reads cs (readItems fuel cs)
  entries : ∀ before cs, Reads cs (readEntries fuel before cs)

theorem readsUpTo_zero : ReadsUpTo 0 where
  value _ := Reads.fail _ _
  items _ := Reads.fail _ _
  entries _ _ := Reads.fail _ _

section step
variable {fuel : Nat} (ih : ReadsUpTo fuel)
include ih

theorem readValue_reads_succ (cs : List CodePoint) : Reads cs (readValue (fuel + 1) cs) := by
  cases cs with
  | nil => exact Reads.fail _ _
  | cons c rest =>
    have htail : rest <:+ c :: rest := List.suffix_cons c rest
    have hinside : skipSpace rest <:+ c :: rest := (skipSpace_suffix rest).trans htail
    rw [readValue]
    split
    · exact ((readString_reads rest).mono htail).bind fun _ _ hrest => ok _ hrest
    · split
      · split
        · rename_i closed
          exact ok _ (suffix_of_mark closed htail)
        · exact ((ih.items _).mono hinside).bind fun _ _ hrest => ok _ hrest
      · split
        · split
          · rename_i closed
            exact ok _ (suffix_of_mark closed htail)
          · exact ((ih.entries _ _).mono hinside).bind fun _ _ hrest => ok _ hrest
        · exact readScalar_reads _

theorem readItems_reads_succ (cs : List CodePoint) : Reads cs (readItems (fuel + 1) cs) := by
  rw [readItems]
  refine (ih.value cs).bind fun item rest hrest => ?_
  dsimp only
  split
  · rename_i closed
    exact ok _ (suffix_of_mark closed hrest)
  · rename_i parted
    have hmore := (skipSpace_suffix _).trans (suffix_of_mark parted hrest)
    exact ((ih.items _).mono hmore).bind fun _ _ hrest' => ok _ hrest'
  · exact Reads.fail _ _

theorem readEntries_reads_succ (before : Object) (cs : List CodePoint) :
    Reads cs (readEntries (fuel + 1) before cs) := by
  unfold readEntries
  split
  · rename_i named
    refine ((readString_reads named).mono (List.suffix_cons _ _)).bind fun name rest hrest => ?_
    dsimp only
    split
    · rename_i parted
      have hvalue := (skipSpace_suffix _).trans (suffix_of_mark parted hrest)
      refine ((ih.value _).mono hvalue).bind fun value rest' hrest' => ?_
      dsimp only
      split
      · rename_i closed
        exact ok _ (suffix_of_mark closed hrest')
      · rename_i parted'
        have hmore := (skipSpace_suffix _).trans (suffix_of_mark parted' hrest')
        exact (ih.entries _ _).mono hmore
      · exact Reads.fail _ _
    · exact Reads.fail _ _
  · exact Reads.fail _ _

end step

theorem readsUpTo (fuel : Nat) : ReadsUpTo fuel := by
  induction fuel with
  | zero => exact readsUpTo_zero
  | succ fuel ih =>
    exact ⟨readValue_reads_succ ih, readItems_reads_succ ih, readEntries_reads_succ ih⟩

theorem hasLongInteger_of_read {raw : RawText} (h : Json.read raw = .error .integerTooLong) :
    HasLongInteger raw.points := by
  unfold Json.read readText at h
  split at h
  · cases h
  · have hvalue := ((readsUpTo (2 * raw.points.length + 2)).value (skipSpace raw.points)).mono
      (skipSpace_suffix raw.points)
    refine hvalue.refusal ?_
    cases hread : readValue (2 * raw.points.length + 2) (skipSpace raw.points) with
    | error e =>
      rw [hread] at h
      cases h
      rfl
    | ok found =>
      rw [hread] at h
      dsimp only [Bind.bind, Except.bind] at h
      split at h <;> cases h

end FileShare.Json

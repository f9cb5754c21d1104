import FileShare.Proofs.Identifiers
import Mathlib.Algebra.Group.Int.Defs
import Mathlib.Algebra.Group.Nat.Defs
import Mathlib.Data.List.Nodup

/-! # Successive draws

The identifiers of one process are ordered as the numbers that their digits write, the seconds
before the counter. Both fields wrap: the counter after `2 ^ 24` draws, the seconds after
`2 ^ 32`. So what keeps the identifiers apart, or in order, is a condition on the clock.
-/
namespace FileShare

/-! ## The order of numerals -/

theorem append_lt_append_iff {α : Type} [LT α] {l k r t : List α} (h : l.length = k.length) :
    l ++ r < k ++ t ↔ l < k ∨ l = k ∧ r < t := by
  induction l generalizing k with
  | nil =>
    cases List.length_eq_zero_iff.mp h.symm
    simp
  | cons a l ih =>
    cases k with
    | nil => simp at h
    | cons b k =>
      simp only [List.cons_append, List.cons_lt_cons_iff, ih (Nat.succ.inj h), List.cons.injEq]
      tauto

namespace Text

theorem hexDigit_lt_iff {a b : Nat} (ha : a < 16) (hb : b < 16) :
    hexDigit a < hexDigit b ↔ a < b := by
  have h : ∀ a < 16, ∀ b < 16, (hexDigit a < hexDigit b ↔ a < b) := by decide
  exact h a ha b hb

theorem hexDigit_inj {a b : Nat} (ha : a < 16) (hb : b < 16) :
    hexDigit a = hexDigit b ↔ a = b := by
  have h : ∀ a < 16, ∀ b < 16, (hexDigit a = hexDigit b ↔ a = b) := by decide
  exact h a ha b hb

section Numerals
variable (width : Nat) {m n : Nat}

theorem mod_pow_succ (width n : Nat) :
    n % 16 ^ (width + 1) = n % 16 + 16 * (n / 16 % 16 ^ width) := by
  rw [Nat.pow_succ', Nat.mod_mul]

theorem hexDigits_inj :
    hexDigits width m = hexDigits width n ↔ m % 16 ^ width = n % 16 ^ width := by
  induction width generalizing m n with
  | zero => simp [hexDigits, Nat.mod_one]
  | succ width ih =>
    have hlast := hexDigit_inj (Nat.mod_lt m (by decide)) (Nat.mod_lt n (by decide))
    rw [hexDigits, hexDigits, List.append_eq_append_iff_of_size_eq_left (by simp), ih,
      List.singleton_inj, hlast, mod_pow_succ, mod_pow_succ]
    omega

theorem hexDigits_lt_iff :
    hexDigits width m < hexDigits width n ↔ m % 16 ^ width < n % 16 ^ width := by
  induction width generalizing m n with
  | zero => simp [hexDigits, Nat.mod_one]
  | succ width ih =>
    have hlast := hexDigit_lt_iff (Nat.mod_lt m (by decide)) (Nat.mod_lt n (by decide))
    rw [hexDigits, hexDigits, append_lt_append_iff (by simp), ih, hexDigits_inj,
      List.cons_lt_cons_iff, hlast, mod_pow_succ, mod_pow_succ]
    simp only [List.not_lt_nil, and_false, or_false]
    omega

end Numerals
end Text

/-! ## The order of one process -/

namespace Generator
variable {g h : Generator} {a b : Instant}

/-- What the identifiers of a process are ordered by: the seconds of the draw, then the counter. -/
def serial (g : Generator) (now : Instant) : Nat :=
  (now.wholeSeconds % (0x100000000 : Nat)).toNat * 0x1000000 + g.counter % 0x1000000

theorem draw_lt_iff (tag : g.processTag = h.processTag) :
    (g.draw a).1 < (h.draw b).1 ↔ g.serial a < h.serial b := by
  have htexts : (g.draw a).1 < (h.draw b).1 ↔ (g.draw a).1.toList < (h.draw b).1.toList := Iff.rfl
  rw [htexts]
  simp only [draw, String.toList_ofList, tag]
  rw [append_lt_append_iff (by simp), append_lt_append_iff (by simp)]
  simp only [Text.hexDigits_lt_iff, serial, List.append_left_inj, Text.hexDigits_inj]
  omega

theorem draw_inj (tag : g.processTag = h.processTag) :
    (g.draw a).1 = (h.draw b).1 ↔ g.serial a = h.serial b := by
  constructor
  · intro hsame
    have hlt := draw_lt_iff (a := a) (b := b) tag
    have hgt := draw_lt_iff (a := b) (b := a) tag.symm
    rw [hsame] at hlt hgt
    simp only [String.lt_irrefl, false_iff] at hlt hgt
    omega
  · intro hsame
    refine String.le_antisymm ?_ ?_ <;> rw [← String.not_lt, draw_lt_iff (by simp [tag])] <;> omega

/-! ## Draws one after another -/

/-- The generator when it has made a number of draws. -/
def advanced (g : Generator) (n : Nat) : Generator := { g with counter := g.counter + n }

@[simp] theorem advanced_zero (g : Generator) : g.advanced 0 = g := rfl

@[simp] theorem advanced_advanced (g : Generator) (m n : Nat) :
    (g.advanced m).advanced n = g.advanced (m + n) := by
  simp only [advanced, Nat.add_assoc]

@[simp] theorem draw_snd (g : Generator) (now : Instant) : (g.draw now).2 = g.advanced 1 := rfl

/-- The identifiers of successive draws, each with its own reading of the clock. -/
def drawEach : Generator → List Instant → List String
  | _, [] => []
  | g, now :: rest => (g.draw now).1 :: (g.draw now).2.drawEach rest

variable {nows : List Instant}

@[simp] theorem length_drawEach : (g.drawEach nows).length = nows.length := by
  induction nows generalizing g with
  | nil => rfl
  | cons now rest ih => rw [drawEach, List.length_cons, List.length_cons, ih]

theorem drawEach_append (earlier later : List Instant) :
    g.drawEach (earlier ++ later) =
      g.drawEach earlier ++ (g.advanced earlier.length).drawEach later := by
  induction earlier generalizing g with
  | nil => rfl
  | cons now rest ih =>
    simp only [List.cons_append, drawEach, draw_snd, ih, advanced_advanced, List.length_cons]
    rw [Nat.add_comm 1]

theorem getElem_drawEach {i : Nat} (hdrawn : i < (g.drawEach nows).length)
    (hi : i < nows.length) : (g.drawEach nows)[i] = ((g.advanced i).draw nows[i]).1 := by
  induction nows generalizing g i with
  | nil => simp at hi
  | cons now rest ih =>
    cases i with
    | zero => rfl
    | succ i =>
      simp only [drawEach, List.getElem_cons_succ]
      rw [ih (by simpa using hi) (by simpa using hi), draw_snd, advanced_advanced, Nat.add_comm 1]

theorem take_drawEach (n : Nat) : (g.drawEach nows).take n = g.drawEach (nows.take n) := by
  induction nows generalizing g n with
  | nil => simp [drawEach]
  | cons now rest ih => cases n <;> simp [drawEach, ih]

theorem drop_drawEach (n : Nat) :
    (g.drawEach nows).drop n = (g.advanced n).drawEach (nows.drop n) := by
  induction nows generalizing g n with
  | nil => simp [drawEach]
  | cons now rest ih =>
    cases n with
    | zero => rfl
    | succ n =>
      simp only [drawEach, List.drop_succ_cons, draw_snd, ih, advanced_advanced]
      rw [Nat.add_comm 1]

theorem isNormal_of_drawEach : ∀ id ∈ g.drawEach nows, Identifier.IsNormal id := by
  induction nows generalizing g with
  | nil => simp [drawEach]
  | cons now rest ih => exact List.forall_mem_cons.mpr ⟨draw_isNormal g now, ih⟩

/-- Two draws of one process give the same if both fields of the process have wrapped. -/
theorem draw_advanced_inj {i j : Nat} :
    ((g.advanced i).draw a).1 = ((g.advanced j).draw b).1 ↔
      a.wholeSeconds % 2 ^ 32 = b.wholeSeconds % 2 ^ 32 ∧
        (g.counter + i) % 2 ^ 24 = (g.counter + j) % 2 ^ 24 := by
  have htag : (g.advanced i).processTag = (g.advanced j).processTag := rfl
  rw [draw_inj htag]
  simp only [serial, advanced]
  omega

/-- Draws within `2 ^ 24` of each other differ in their counters, whatever the clock does. -/
theorem nodup_drawEach_of_short (hshort : nows.length ≤ 2 ^ 24) : (g.drawEach nows).Nodup := by
  refine List.pairwise_iff_getElem.mpr fun i j hi hj hij hsame => ?_
  rw [length_drawEach] at hi hj
  rw [getElem_drawEach _ hi, getElem_drawEach _ hj, draw_advanced_inj] at hsame
  omega

theorem nodup_window (i : Nat) : (((g.drawEach nows).drop i).take (2 ^ 24)).Nodup := by
  rw [drop_drawEach, take_drawEach]
  exact nodup_drawEach_of_short (List.length_take_le _ _)

end Generator

/-! ## Conditions on the clock -/

/-- Readings of a clock that does not go back, of seconds that four bytes can hold. -/
structure Forward (nows : List Instant) : Prop where
  ordered : nows.Pairwise fun a b => a.wholeSeconds ≤ b.wholeSeconds
  fits : ∀ now ∈ nows, 0 ≤ now.wholeSeconds ∧ now.wholeSeconds < 2 ^ 32

/-- Besides, no second has more readings than the counter has values. -/
structure Steady (nows : List Instant) : Prop extends Forward nows where
  sparse : ∀ second, nows.countP (·.wholeSeconds = second) ≤ 2 ^ 24

variable {nows : List Instant}

theorem Forward.sublist {picked : List Instant} (clock : Forward nows)
    (h : picked.Sublist nows) : Forward picked :=
  ⟨clock.ordered.sublist h, fun now hnow => clock.fits now (h.subset hnow)⟩

theorem Forward.le (clock : Forward nows) {i j : Nat} (hij : i ≤ j) (hi : i < nows.length)
    (hj : j < nows.length) : nows[i].wholeSeconds ≤ nows[j].wholeSeconds := by
  rcases Nat.eq_or_lt_of_le hij with rfl | hlt
  · exact Int.le_refl _
  · exact List.pairwise_iff_getElem.mp clock.ordered i j hi hj hlt

/-- Readings of one second stand together. -/
theorem Forward.lt_count (clock : Forward nows) {i j : Nat} (hij : i ≤ j) (hi : i < nows.length)
    (hj : j < nows.length) (hsame : nows[i].wholeSeconds = nows[j].wholeSeconds) :
    j - i < nows.countP (·.wholeSeconds = nows[i].wholeSeconds) := by
  have hrun : ((nows.drop i).take (j - i + 1)).countP (·.wholeSeconds = nows[i].wholeSeconds) =
      j - i + 1 := by
    rw [List.countP_eq_length.mpr, List.length_take, List.length_drop]
    · omega
    · intro now hnow
      obtain ⟨k, hk, rfl⟩ := List.mem_iff_getElem.mp hnow
      rw [List.length_take, List.length_drop] at hk
      rw [List.getElem_take, List.getElem_drop, decide_eq_true_iff]
      have hfirst := clock.le (i := i) (j := i + k) (by omega) hi (by omega)
      have hlast := clock.le (i := i + k) (j := j) (by omega) (by omega) hj
      omega
  have hpart : ((nows.drop i).take (j - i + 1)).Sublist nows :=
    (List.take_sublist _ _).trans (List.drop_sublist _ _)
  have hcount := hpart.countP_le (p := (·.wholeSeconds = nows[i].wholeSeconds))
  omega

theorem Steady.nodup_drawEach (clock : Steady nows) (g : Generator) : (g.drawEach nows).Nodup := by
  refine List.pairwise_iff_getElem.mpr fun i j hi hj hij hsame => ?_
  rw [Generator.length_drawEach] at hi hj
  rw [Generator.getElem_drawEach _ hi, Generator.getElem_drawEach _ hj,
    Generator.draw_advanced_inj] at hsame
  obtain ⟨hseconds, hcounter⟩ := hsame
  have hfits := clock.fits _ (List.getElem_mem hi)
  have hfits' := clock.fits _ (List.getElem_mem hj)
  have hsecond : nows[i].wholeSeconds = nows[j].wholeSeconds := by omega
  have hmany := clock.lt_count (Nat.le_of_lt hij) hi hj hsecond
  have hfew := clock.sparse nows[i].wholeSeconds
  omega

/-! ## Order -/

namespace Generator
variable {g : Generator}

/-- Between two draws within one second the counter never comes round to zero. -/
def Unwrapped : Generator → List Instant → Prop
  | g, a :: b :: rest =>
    (a.wholeSeconds = b.wholeSeconds → (g.counter + 1) % 2 ^ 24 ≠ 0) ∧
      Unwrapped (g.advanced 1) (b :: rest)
  | _, _ => True

/-- The next identifier is the greater one, unless the counter comes round within the second. -/
theorem draw_lt_next {a b : Instant} (clock : Forward [a, b]) :
    (g.draw a).1 < ((g.advanced 1).draw b).1 ↔
      (a.wholeSeconds = b.wholeSeconds → (g.counter + 1) % 2 ^ 24 ≠ 0) := by
  have htag : g.processTag = (g.advanced 1).processTag := rfl
  have hle := clock.le (i := 0) (j := 1) (by decide) (by simp) (by simp)
  have ha := clock.fits a List.mem_cons_self
  have hb := clock.fits b (List.mem_cons_of_mem a List.mem_cons_self)
  simp only [List.getElem_cons_zero, List.getElem_cons_succ] at hle
  rw [draw_lt_iff htag]
  simp only [serial, advanced]
  omega

/-- Under a clock that does not go back, identifiers increase as long as the counter does not come
round within a second. -/
theorem drawEach_increases_iff (clock : Forward nows) :
    (g.drawEach nows).Pairwise (· < ·) ↔ g.Unwrapped nows := by
  rw [← List.isChain_iff_pairwise]
  induction nows generalizing g with
  | nil => simp [drawEach, Unwrapped]
  | cons a rest ih =>
    cases rest with
    | nil => simp [drawEach, Unwrapped]
    | cons b rest =>
      have hpair : Forward [a, b] :=
        clock.sublist (((List.nil_sublist rest).cons_cons b).cons_cons a)
      simp only [drawEach, draw_snd] at ih ⊢
      rw [List.isChain_cons_cons, draw_lt_next hpair, Unwrapped,
        ← ih (clock.sublist (List.sublist_cons_self a (b :: rest)))]

end Generator

end FileShare

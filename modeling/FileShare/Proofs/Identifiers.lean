import FileShare.Identifier
import FileShare.Proofs.Rules

/-! # Normal identifiers

What a request names by an identifier in any case is stored and compared in lower case. Parsing
gives a normal identifier, and it leaves a normal one as it is.
-/
namespace FileShare

namespace Text

def IsLowerHex (c : Char) : Prop := ('0' ≤ c ∧ c ≤ '9') ∨ ('a' ≤ c ∧ c ≤ 'f')

theorem isLowerHex_iff {c : Char} :
    IsLowerHex c ↔ (48 ≤ c.toNat ∧ c.toNat ≤ 57) ∨ (97 ≤ c.toNat ∧ c.toNat ≤ 102) := Iff.rfl

theorem isHexDigit_iff {c : Char} :
    isHexDigit c ↔ IsLowerHex c ∨ (65 ≤ c.toNat ∧ c.toNat ≤ 70) := by
  rw [isLowerHex_iff]
  unfold isHexDigit hexValue?
  grind

theorem toNat_ofNat {n : Nat} (h : n < 128) : (Char.ofNat n).toNat = n := by
  have hvalid : n.isValidChar := Or.inl (by omega)
  rw [Char.ofNat, dif_pos hvalid]
  rfl

theorem lowerChar_hex {c : Char} (h : isHexDigit c) : IsLowerHex (lowerChar c) := by
  rw [isHexDigit_iff, isLowerHex_iff] at h
  rw [isLowerHex_iff, lowerChar, lowerCode]
  have hsmall : c.toNat < 0x80 := by omega
  rw [if_pos hsmall]
  split <;> rw [toNat_ofNat (by omega)] <;> omega

theorem lowerChar_lowerHex {c : Char} (h : IsLowerHex c) : lowerChar c = c := by
  rw [isLowerHex_iff] at h
  have hsmall : c.toNat < 0x80 := by omega
  rw [lowerChar, lowerCode, if_pos hsmall, if_neg (by omega)]
  exact Char.ofNat_toNat c

/-- Without the two letters that have a form of their own, lower case goes letter by letter. -/
theorem lowerFrom_eq_map (before : List Char) {cs : List Char}
    (h : ∀ c ∈ cs, c ≠ 'Σ' ∧ c ≠ 'İ') : lowerFrom before cs = cs.map lowerChar := by
  induction cs generalizing before with
  | nil => rfl
  | cons c cs ih =>
    obtain ⟨hsigma, hdotted⟩ := h c List.mem_cons_self
    simp only [lowerFrom, if_neg hsigma, if_neg hdotted, List.map_cons, List.singleton_append]
    rw [ih (c :: before) fun d hd => h d (List.mem_cons_of_mem c hd)]

theorem toList_lower_hex {s : String} (h : ∀ c ∈ s.toList, isHexDigit c) :
    (lower s).toList = s.toList.map lowerChar := by
  rw [lower, String.toList_ofList, lowerFrom_eq_map]
  intro c hc
  constructor
  · rintro rfl
    exact absurd (h _ hc) (by decide)
  · rintro rfl
    exact absurd (h _ hc) (by decide)

theorem length_lower_hex {s : String} (h : ∀ c ∈ s.toList, isHexDigit c) :
    (lower s).length = s.length := by
  rw [← String.length_toList, toList_lower_hex h, List.length_map, String.length_toList]

theorem isLowerHex_lower {s : String} (h : ∀ c ∈ s.toList, isHexDigit c) :
    ∀ c ∈ (lower s).toList, IsLowerHex c := by
  rw [toList_lower_hex h]
  intro c hc
  obtain ⟨d, hd, rfl⟩ := List.mem_map.mp hc
  exact lowerChar_hex (h d hd)

end Text

namespace Identifier

/-- An identifier as it is stored. -/
structure IsNormal (id : String) : Prop where
  length : id.length = 24
  digits : ∀ c ∈ id.toList, Text.IsLowerHex c

theorem isValid_iff {s : String} :
    isValid s ↔ s.length = 24 ∧ ∀ c ∈ s.toList, Text.isHexDigit c := by
  simp [isValid]

theorem parse_eq_ok {field : Option String} {v : Json} {id : String} :
    parse field v = .ok id ↔ ∃ s, v = .str s ∧ isValid s ∧ Text.lower s = id := by
  unfold parse
  split
  · split <;> simp_all
  · rename_i hv
    simp only [Outcome.reject_ne_ok, false_iff, not_exists]
    exact fun s h => hv s h.1

theorem parse_follows (field : Option String) (v : Json) :
    Rule.Follows [.demand (∃ s, v = .str s ∧ isValid s) (.badIdentifier v field)]
      (parse field v) := by
  refine .single ?_ ?_
  · simp [parse_eq_ok]
  · unfold parse
    split
    · split <;> simp
    · simp

theorem isNormal_lower {s : String} (h : isValid s) : IsNormal (Text.lower s) := by
  obtain ⟨hlength, hdigits⟩ := isValid_iff.mp h
  exact ⟨(Text.length_lower_hex hdigits).trans hlength, Text.isLowerHex_lower hdigits⟩

theorem isNormal_of_parse {field : Option String} {v : Json} {id : String}
    (h : parse field v = .ok id) : IsNormal id := by
  obtain ⟨s, _, hvalid, rfl⟩ := parse_eq_ok.mp h
  exact isNormal_lower hvalid

namespace IsNormal
variable {id : String} (h : IsNormal id)
include h

theorem isValid : isValid id :=
  isValid_iff.mpr ⟨h.length, fun c hc => Text.isHexDigit_iff.mpr (.inl (h.digits c hc))⟩

theorem lower_eq : Text.lower id = id := by
  obtain ⟨_, hdigits⟩ := isValid_iff.mp h.isValid
  apply String.toList_injective
  rw [Text.toList_lower_hex hdigits]
  conv_rhs => rw [← List.map_id id.toList]
  exact List.map_congr_left fun c hc => Text.lowerChar_lowerHex (h.digits c hc)

theorem parse_eq (field : Option String) : parse field (.str id) = .ok id :=
  parse_eq_ok.mpr ⟨id, rfl, h.isValid, h.lower_eq⟩

theorem parseOptional_eq (field : Option String) :
    parseOptional field (.str id) = .ok (some id) := by
  unfold parseOptional
  split
  · simp at *
  · rename_i hempty
    cases hempty
    exact absurd h.length (by decide)
  · rw [h.parse_eq]
    rfl

end IsNormal

end Identifier

/-! ## Drawn identifiers -/

namespace Text

theorem hexDigit_isLowerHex {d : Nat} (h : d < 16) : IsLowerHex (hexDigit d) := by
  rw [isLowerHex_iff, hexDigit]
  split <;> rw [toNat_ofNat (by omega)] <;> omega

theorem hexDigits_isLowerHex (width n : Nat) : ∀ c ∈ hexDigits width n, IsLowerHex c := by
  induction width generalizing n with
  | zero => simp [hexDigits]
  | succ width ih =>
    intro c hc
    rcases List.mem_append.mp hc with hc | hc
    · exact ih (n / 16) c hc
    · rw [List.mem_singleton.mp hc]
      exact hexDigit_isLowerHex (Nat.mod_lt n (by decide))

@[simp] theorem length_hexDigits (width n : Nat) : (hexDigits width n).length = width := by
  induction width generalizing n with
  | zero => rfl
  | succ width ih => simp [hexDigits, ih]

end Text

theorem Generator.draw_isNormal (g : Generator) (now : Instant) :
    Identifier.IsNormal (g.draw now).1 := by
  constructor
  · simp [draw]
  · intro c hc
    simp only [draw, String.toList_ofList, List.mem_append] at hc
    rcases hc with (hc | hc) | hc <;> exact Text.hexDigits_isLowerHex _ _ c hc

end FileShare

import FileShare.Proofs.Identifiers

/-! # Lists of identifiers

Requests name several nodes by a list of identifiers in any case and with repetitions. The list is
read in lower case, each identifier once; it is refused for the first value that is no identifier.
Repetitions are dropped before the values are checked and again afterwards. The first pass compares
values as members of a set, where the number one and the value true are the same. It keeps the first
of them, and so the value that is reported is the first in the list.
-/
namespace FileShare

open Rule

namespace Identifier

theorem sameMember_str {v : Json} {s : String} : v.sameMember (.str s) ↔ v = .str s := by
  cases v <;> simp [Json.sameMember, Json.number?]

/-- A list is read as if repetitions were dropped after normalization only. -/
theorem parseAll_eq (field : Option String) (values : List Json) :
    parseAll field values = do
      values.forM checkHashable
      return (← values.mapM (parse field)).eraseDups := by
  -- Only what follows a value that was read may be left out, and it is the same text.
  have hrepeated : ∀ v w id, Json.sameMember w v → parse field v = .ok id →
      parse field w = .ok id := by
    intro v w id hsame hv
    obtain ⟨s, rfl, _⟩ := parse_eq_ok.mp hv
    rw [sameMember_str.mp hsame]
    exact hv
  simp only [parseAll, bind_pure_comp, Outcome.eraseDups_mapM_eraseDupsBy hrepeated]

theorem texts_of_parsed {field : Option String} {values : List Json} {ids : List String}
    (h : List.Forall₂ (fun v id => parse field v = .ok id) values ids) :
    ∃ texts : List String, values = texts.map .str ∧ (∀ text ∈ texts, isValid text) ∧
      ids = texts.map Text.lower := by
  induction h with
  | nil => exact ⟨[], rfl, by simp, rfl⟩
  | cons hid _ ih =>
    obtain ⟨text, rfl, hvalid, rfl⟩ := parse_eq_ok.mp hid
    obtain ⟨texts, rfl, valid, rfl⟩ := ih
    exact ⟨text :: texts, rfl, List.forall_mem_cons.mpr ⟨hvalid, valid⟩, rfl⟩

theorem parseAll_texts (field : Option String) {texts : List String}
    (h : ∀ text ∈ texts, isValid text) :
    parseAll field (texts.map .str) = .ok ((texts.map Text.lower).eraseDups) := by
  have hscalars : (texts.map Json.str).forM checkHashable = .ok () :=
    Outcome.forM_of_ok (List.forall_mem_map.mpr fun _ _ => rfl)
  have hparsed : (texts.map Json.str).mapM (parse field) = .ok (texts.map Text.lower) := by
    rw [Outcome.mapM_eq_ok, List.forall₂_map_left_iff, List.forall₂_map_right_iff,
      List.forall₂_same]
    intro text htext
    exact parse_eq_ok.mpr ⟨text, rfl, h text htext, rfl⟩
  simp only [parseAll_eq, hscalars, hparsed, Outcome.ok_bind]
  rfl

theorem parseAll_eq_ok {field : Option String} {values : List Json} {ids : List String} :
    parseAll field values = .ok ids ↔ ∃ texts : List String, values = texts.map .str ∧
      (∀ text ∈ texts, isValid text) ∧ ids = (texts.map Text.lower).eraseDups := by
  constructor
  · rw [parseAll_eq]
    intro h
    obtain ⟨_, _, h⟩ := Outcome.bind_eq_ok.mp h
    obtain ⟨parsed, hparsed, h⟩ := Outcome.bind_eq_ok.mp h
    cases h
    obtain ⟨texts, rfl, valid, rfl⟩ := texts_of_parsed (Outcome.mapM_eq_ok.mp hparsed)
    exact ⟨texts, rfl, valid, rfl⟩
  · rintro ⟨texts, rfl, valid, rfl⟩
    exact parseAll_texts field valid

theorem isNormal_of_parseAll {field : Option String} {values : List Json} {ids : List String}
    (h : parseAll field values = .ok ids) : ∀ id ∈ ids, IsNormal id := by
  obtain ⟨texts, _, valid, rfl⟩ := parseAll_eq_ok.mp h
  intro id hid
  obtain ⟨text, htext, rfl⟩ := List.mem_map.mp (List.mem_eraseDups.mp hid)
  exact isNormal_lower (valid text htext)

theorem parseAll_normal (field : Option String) {ids : List String} (hids : ids.Nodup)
    (hnormal : ∀ id ∈ ids, IsNormal id) : parseAll field (ids.map .str) = .ok ids := by
  have hlower : ids.map Text.lower = ids := by
    conv_rhs => rw [← List.map_id ids]
    exact List.map_congr_left fun id hid => (hnormal id hid).lower_eq
  rw [parseAll_texts field fun id hid => (hnormal id hid).isValid, hlower, eraseDups_of_nodup hids]

end Identifier

/-! ## Which lists are read -/

def Json.IsScalar : Json → Prop
  | .arr _ | .obj _ => False
  | _ => True

namespace Identifier

/-- A text of exactly 24 hexadecimal digits. -/
def IsWellFormed (v : Json) : Prop :=
  ∃ text, v = .str text ∧ text.length = 24 ∧
    ∀ c ∈ text.toList, ('0' ≤ c ∧ c ≤ '9') ∨ ('a' ≤ c ∧ c ≤ 'f') ∨ ('A' ≤ c ∧ c ≤ 'F')

theorem isWellFormed_iff {v : Json} : IsWellFormed v ↔ ∃ text, v = .str text ∧ isValid text := by
  have hdigit : ∀ c : Char, Text.isHexDigit c ↔
      ('0' ≤ c ∧ c ≤ '9') ∨ ('a' ≤ c ∧ c ≤ 'f') ∨ ('A' ≤ c ∧ c ≤ 'F') := by
    intro c
    rw [Text.isHexDigit_iff, Text.IsLowerHex, or_assoc]
    rfl
  simp only [IsWellFormed, isValid_iff, hdigit]

/-- Line breaks are no digits, and neither are the digits of other scripts. -/
theorem not_isWellFormed {text : String} {c : Char} (hc : c ∈ text.toList)
    (hother : c = '\n' ∨ 127 < c.toNat) : ¬ IsWellFormed (.str text) := by
  intro h
  obtain ⟨_, ⟨⟩, valid⟩ := isWellFormed_iff.mp h
  have hdigit := Text.isHexDigit_iff.mp ((isValid_iff.mp valid).2 c hc)
  rw [Text.isLowerHex_iff] at hdigit
  rcases hother with rfl | hlarge
  · exact absurd hdigit (by decide)
  · omega

theorem checkHashable_of_isScalar {v : Json} (h : v.IsScalar) : checkHashable v = .ok () := by
  cases v with
  | arr items => cases h
  | obj entries => cases h
  | _ => rfl

theorem parseAll_follows (field : Option String) {values : List Json}
    (scalars : ∀ v ∈ values, v.IsScalar) :
    Follows (values.map fun v => demand (IsWellFormed v) (.badIdentifier v field))
      (parseAll field values) := by
  have hhashable : values.forM checkHashable = .ok () :=
    Outcome.forM_of_ok fun v hv => checkHashable_of_isScalar (scalars v hv)
  rw [parseAll_eq, hhashable, Outcome.ok_bind, bind_pure_comp]
  simp only [isWellFormed_iff]
  exact (Follows.mapM fun v _ => parse_follows field v).map List.eraseDups

theorem parseAll_eq_error {field : Option String} {values : List Json}
    (scalars : ∀ v ∈ values, v.IsScalar) {e : Failure} :
    parseAll field values = .error e ↔ ∃ before v after, values = before ++ v :: after ∧
      (∀ u ∈ before, IsWellFormed u) ∧ ¬ IsWellFormed v ∧
      e = .rejected (.badIdentifier v field) := by
  rw [(parseAll_follows field scalars).error_iff, FirstViolated.map_iff]
  rfl

/-- A list of scalars is read exactly if each of them is an identifier in either case. What is read
has each identifier of the list once, in lower case and in the order of first occurrence, and it is
read as it is. Otherwise the list is refused for the first value in it that is no identifier, with
this value as it was given; a text with a line break or with a digit of another script is none. -/
theorem lists_are_normalized (field : Option String) {values : List Json}
    (scalars : ∀ v ∈ values, v.IsScalar) :
    ((∃ ids, parseAll field values = .ok ids) ↔ ∀ v ∈ values, IsWellFormed v) ∧
    (∀ ids, parseAll field values = .ok ids → ∃ texts : List String, values = texts.map .str ∧
      ids.Nodup ∧ (∀ id, id ∈ ids ↔ id ∈ texts.map Text.lower) ∧
      (ids.Pairwise fun a b => (texts.map Text.lower).idxOf a < (texts.map Text.lower).idxOf b) ∧
      ids = (texts.map Text.lower).eraseDups ∧
      ∀ other, parseAll other (ids.map .str) = .ok ids) ∧
    (∀ e, parseAll field values = .error e ↔ ∃ before v after, values = before ++ v :: after ∧
      (∀ u ∈ before, IsWellFormed u) ∧ ¬ IsWellFormed v ∧
      e = .rejected (.badIdentifier v field)) ∧
    ∀ text : String, (∃ c ∈ text.toList, c = '\n' ∨ 127 < c.toNat) →
      ¬ IsWellFormed (.str text) := by
  refine ⟨?_, ?_, fun _ => parseAll_eq_error scalars, ?_⟩
  · rw [(parseAll_follows field scalars).ok_iff, List.forall_mem_map]
    rfl
  · intro ids h
    have hnormal := isNormal_of_parseAll h
    obtain ⟨texts, rfl, _, rfl⟩ := parseAll_eq_ok.mp h
    exact ⟨texts, rfl, nodup_eraseDups _, fun _ => List.mem_eraseDups, eraseDups_ordered _,
      rfl, fun other => parseAll_normal other (nodup_eraseDups _) hnormal⟩
  · rintro text ⟨c, hc, hother⟩
    exact not_isWellFormed hc hother

end Identifier

namespace Sample

/-- Two identifiers, one of them in three forms. -/
def repeated : List String :=
  ["5F1D7A00AA00BB00CC000011", "5f1d7a00aa00bb00cc000010", "5f1d7a00aa00bb00cc000011",
    "5F1D7a00AA00bb00CC000011", "5f1d7a00aa00bb00cc000010"]

def kept : List String := ["5f1d7a00aa00bb00cc000011", "5f1d7a00aa00bb00cc000010"]

/-- A truth value stands before the number that counts as the same, and a line break behind both. -/
def mixed : List Json :=
  repeated.map .str ++ [.bool true, .int 1, .str "5f1d7a00aa00bb00cc000010\n", .null]

end Sample

theorem Identifier.lists_are_normalized_sample :
    (∀ v ∈ Sample.repeated.map Json.str, v.IsScalar) ∧ (∀ v ∈ Sample.mixed, v.IsScalar) ∧
    parseAll none (Sample.repeated.map .str) = .ok Sample.kept ∧
    parseAll none Sample.mixed = reject (.badIdentifier (.bool true) none) ∧
    (∃ texts : List String, Sample.repeated.map Json.str = texts.map .str ∧ Sample.kept.Nodup ∧
      (∀ id, id ∈ Sample.kept ↔ id ∈ texts.map Text.lower) ∧
      (Sample.kept.Pairwise fun a b =>
        (texts.map Text.lower).idxOf a < (texts.map Text.lower).idxOf b) ∧
      Sample.kept = (texts.map Text.lower).eraseDups ∧
      ∀ other, parseAll other (Sample.kept.map .str) = .ok Sample.kept) ∧
    ∃ before v after, Sample.mixed = before ++ v :: after ∧ (∀ u ∈ before, IsWellFormed u) ∧
      ¬ IsWellFormed v ∧
      Failure.rejected (.badIdentifier (.bool true) none) = .rejected (.badIdentifier v none) := by
  have hrepeated : ∀ v ∈ Sample.repeated.map Json.str, v.IsScalar :=
    List.forall_mem_map.mpr fun _ _ => trivial
  have hmixed : ∀ v ∈ Sample.mixed, v.IsScalar := by
    intro v hv
    rcases List.mem_append.mp hv with hv | hv
    · exact hrepeated v hv
    · simp only [List.mem_cons, List.not_mem_nil, or_false] at hv
      rcases hv with rfl | rfl | rfl | rfl <;> trivial
  exact ⟨hrepeated, hmixed, rfl, rfl, (lists_are_normalized none hrepeated).2.1 _ rfl,
    ((lists_are_normalized none hmixed).2.2.1 _).mp rfl⟩

end FileShare

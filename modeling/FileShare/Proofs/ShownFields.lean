import FileShare.Proofs.AcceptedFields
import FileShare.Proofs.IdentifierLists
import FileShare.Proofs.Sorting

/-! # Fields as they are shown

A body gives values for fields, and a node shows values of its fields. What is shown of a value that
was written is its normal form: tags and identifiers are in lower case and each once, tags and
grants are in order, and everything else is as it was given.
-/
namespace FileShare

/-! ## Looking entries up -/

namespace Entries
variable {κ κ' α β : Type} [DecidableEq κ] [DecidableEq κ']

theorem get?_map {spell : κ → κ'} (hspell : spell.Injective) (f : α → β) (entries : List (κ × α))
    (name : κ) :
    get? (entries.map fun e => (spell e.1, f e.2)) (spell name) = (get? entries name).map f := by
  induction entries with
  | nil => rfl
  | cons e rest ih =>
    by_cases h : e.1 = name
    · simp [get?, h]
    · simp [get?, h, hspell.ne h, ih]

theorem get?_insert_sorted (e : String × α) (entries : Entries α) (name : String) :
    get? (insertBy (fun a b => decide (a.1 ≤ b.1)) e entries) name =
      if e.1 = name then some e.2 else get? entries name := by
  induction entries with
  | nil => rfl
  | cons b rest ih =>
    by_cases hle : e.1 ≤ b.1
    · simp [insertBy, hle, get?]
    · have hne : b.1 = name → e.1 ≠ name := fun hb he => hle (he.trans hb.symm ▸ String.le_refl _)
      simp only [insertBy, hle, decide_false, Bool.false_eq_true, if_false, get?, ih]
      by_cases hb : b.1 = name
      · rw [if_pos hb, if_neg (hne hb), if_pos hb]
      · rw [if_neg hb, if_neg hb]

/-- Sorting entries by their names leaves what stands under a name, because it is stable. -/
theorem get?_sorted (entries : Entries α) (name : String) :
    get? (sortBy (fun a b => decide (a.1 ≤ b.1)) entries) name = get? entries name := by
  induction entries with
  | nil => rfl
  | cons e rest ih => rw [sortBy, get?_insert_sorted, ih, get?]

end Entries

/-! ## The normal form -/

def Json.texts (items : List Json) : List String :=
  items.filterMap fun
    | .str text => some text
    | _ => none

@[simp] theorem Json.texts_map_str (texts : List String) : Json.texts (texts.map .str) = texts := by
  simp [Json.texts, List.filterMap_map]

/-- The entries of an object whose names have a UTF-8 form, in the order of the names. -/
def Json.sortedEntries (o : Json.Object) : Json.Object :=
  let named : Entries Json := o.filterMap fun e => e.1.utf8?.map (·, e.2)
  (sortBy (fun a b => decide (a.1 ≤ b.1)) named).map fun e => (.text e.1, e.2)

/-- The value that a field shows after a value was written to it. -/
def Body.normal (field : String) (v : Json) : Json :=
  match field, v with
  | "tags", .arr items => .strings (sortTexts ((Json.texts items).map Text.lower).eraseDups)
  | "contents", .arr items => .strings ((Json.texts items).map Text.lower).eraseDups
  | "permissions", .obj grants => .obj (Json.sortedEntries grants)
  | _, v => v

/-! ## What checks let through -/

namespace Body
variable {limits : Settings} {s : Store} {v : Json}

theorem normal_of_checkName {name : String} (h : checkName limits v = .ok (.text name)) :
    normal "name" v = .str name := by
  obtain ⟨rfl, _⟩ := boundedText_eq_ok.mp h
  rfl

theorem normal_of_checkText {text : String} (h : checkText limits v = .ok text) :
    normal "text" v = .str text := by
  obtain ⟨rfl, _⟩ := checkText_eq_ok.mp h
  rfl

theorem normal_of_checkTags {tags : List String} (h : checkTags limits v = .ok (tags.map .text)) :
    normal "tags" v = .strings (sortTexts (Matcher.normalizeTags tags)) := by
  obtain ⟨rfl, _⟩ := checkTags_eq_ok.mp h
  rw [← Json.strings_eq]
  simp [normal, Json.strings, Matcher.normalizeTags]

theorem normal_of_checkLock {lock : Json} (h : checkLock limits v = .ok lock) :
    normal "lock" v = lock := by
  obtain ⟨rfl, _⟩ := checkLock_eq_ok.mp h
  simp [normal]

theorem texts_of_parse {items : List Json} {ids : List String}
    (h : List.Forall₂ (fun item id => Identifier.parse (some "contents") item = .ok id) items ids) :
    (Json.texts items).map Text.lower = ids := by
  obtain ⟨texts, rfl, _, rfl⟩ := Identifier.texts_of_parsed h
  rw [Json.texts_map_str]

theorem normal_of_checkContents {kind : String} {ids : List String}
    (h : checkContents limits s kind v = .ok ids) : normal "contents" v = .strings ids := by
  obtain ⟨items, parsed, rfl, _, hparsed, _, rfl⟩ := checkContents_eq_ok.mp h
  simp [normal, texts_of_parse hparsed]

theorem grantsToJson_of_checkPermissions {isFile : Bool} {grants : Entries String}
    (h : checkPermissions limits s isFile v = .ok grants) : v = Node.grantsToJson grants := by
  obtain ⟨entries, rfl, hchecked, _⟩ := checkPermissions_eq_ok.mp h
  have hgiven : List.Forall₂
      (fun e (g : String × String) => e = (RawText.text g.1, Json.str g.2) ∧ True)
      entries grants := by
    refine hchecked.imp fun e g hg => ?_
    obtain ⟨level, hlevel, _, _, hraw⟩ := checkGrant_eq_ok.mp hg
    obtain ⟨hname, rfl⟩ := Prod.ext_iff.mp hraw
    exact ⟨Prod.ext hname hlevel, trivial⟩
  rw [(Outcome.forall₂_eq_map.mp hgiven).1, Node.grantsToJson]

theorem normal_of_checkPermissions {isFile : Bool} {grants : Entries String}
    (h : checkPermissions limits s isFile v = .ok grants) :
    normal "permissions" v = Node.grantsToJson (sortGrants grants) := by
  rw [grantsToJson_of_checkPermissions h]
  have hsorted : sortBy (fun a b => decide (a.1 ≤ b.1))
      (grants.map fun g => (g.1, Json.str g.2)) =
        (sortBy (fun a b => decide (a.1 ≤ b.1)) grants).map fun g => (g.1, Json.str g.2) :=
    sortBy_map (fun _ _ => rfl) grants
  simp [normal, Json.sortedEntries, Node.grantsToJson, sortGrants, List.filterMap_map,
    Function.comp_def, RawText.utf8?, hsorted]

theorem checkOwner_eq_ok {owner : String} :
    checkOwner s v = .ok owner ↔ v = .str owner ∧ s.hasUser owner := by
  rw [show Json.str owner = .ofText owner from rfl, ← Json.text?_eq_some, checkOwner]
  cases v.text? with
  | none => simp
  | some t =>
    simp only [Outcome.bind_eq_ok, RawText.encode_eq_ok, Option.some.injEq]
    constructor
    · rintro ⟨username, rfl, h⟩
      obtain ⟨rfl, hknown⟩ := Outcome.guard_eq_ok.mp h
      exact ⟨rfl, hknown⟩
    · rintro ⟨rfl, hknown⟩
      exact ⟨owner, rfl, Outcome.guard_eq_ok.mpr ⟨rfl, hknown⟩⟩

theorem normal_of_checkOwner {owner : String} (h : checkOwner s v = .ok owner) :
    normal "owner" v = .str owner := by
  obtain ⟨rfl, _⟩ := checkOwner_eq_ok.mp h
  rfl

end Body
end FileShare

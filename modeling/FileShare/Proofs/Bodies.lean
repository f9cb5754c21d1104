import FileShare.Body
import FileShare.Proofs.Outcome

/-! # Accepted bodies

A body passes its check exactly if each of its fields passes its own. What is taken from the body is
then what the checks of the fields give.
-/
namespace FileShare

theorem Fields.ifPresent_eq_some {α : Type} {body : Json.Object} {field : RawText}
    {check : Json → Except Failure α} {a : α} :
    ifPresent body field check = .ok (some a) ↔
      ∃ v, Entries.get? body field = some v ∧ check v = .ok a := by
  unfold ifPresent
  cases Entries.get? body field with
  | none => simp
  | some v => simp [Outcome.map_eq_ok]

theorem Fields.exists_of_ifPresent {α : Type} {body : Json.Object} {field : RawText}
    {check : Json → Except Failure α} {o : Option α} (h : ifPresent body field check = .ok o)
    {a : α} (ha : o = some a) : ∃ v, check v = .ok a := by
  subst ha
  obtain ⟨v, _, hv⟩ := ifPresent_eq_some.mp h
  exact ⟨v, hv⟩

theorem Fields.spelled_id {α : Type} {x : Except Failure (Option α)} {o : Option α}
    (h : x = .ok o) : x = .ok (o.map id) := by
  rw [h, Option.map_id_fun]
  rfl

/-- A check that gives the text of a value back says what the body holds. -/
theorem Fields.get?_of_ifPresent {α β : Type} {body : Json.Object} {field : RawText}
    {check : Json → Except Failure β} {o : Option α} {spell : α → β}
    (h : ifPresent body field check = .ok (o.map spell)) {raw : α → Json}
    (hraw : ∀ {v a}, check v = .ok (spell a) → v = raw a) :
    Entries.get? body field = o.map raw := by
  unfold ifPresent at h
  cases hvalue : Entries.get? body field with
  | none =>
    rw [hvalue] at h
    cases o with
    | none => rfl
    | some a => cases h
  | some v =>
    rw [hvalue] at h
    obtain ⟨b, hb, hspelled⟩ := Outcome.map_eq_ok.mp h
    obtain ⟨a, rfl, rfl⟩ := Option.map_eq_some_iff.mp hspelled.symm
    rw [hraw hb]
    rfl

theorem Fields.checkKnown_eq_ok {allowed : List RawText} {body : Json.Object} {u : Unit} :
    checkKnown allowed body = .ok u ↔ ∀ name ∈ Entries.names body, name ∈ allowed := by
  unfold checkKnown
  split
  · rename_i hunknown
    have hfield := List.mem_of_find?_eq_some hunknown
    have hother := List.find?_some hunknown
    simpa using ⟨_, hfield, by simpa using hother⟩
  · rename_i hnone
    simpa using List.find?_eq_none.mp hnone

/-- A check that gives what can be made of a value gives what was made if it gives anything. -/
theorem Fields.ifPresent_map {α β : Type} {body : Json.Object} {field : RawText}
    {check : Json → Except Failure β} {f : α → β} {o : Option α}
    (h : ifPresent body field check = .ok (o.map f)) {a : α} (ha : o = some a) :
    ∃ v, check v = .ok (f a) :=
  exists_of_ifPresent h (by rw [ha, Option.map_some])

theorem holds_getD {α : Type} {P : α → Prop} {o : Option α} {a : α}
    (hnew : ∀ b, o = some b → P b) (hold : P a) : P (o.getD a) := by
  cases o with
  | none => exact hold
  | some b => exact hnew b rfl

namespace Body
variable {limits : Settings} {s : Store} {body : Json.Object}

theorem checkKind_eq_ok {v : Json} {kind : String} :
    checkKind v = .ok kind ↔ v = .str kind ∧ kind ∈ nodeKinds := by
  unfold checkKind
  split
  · rename_i k
    split
    · rename_i hk
      simp only [Except.ok.injEq, Json.str.injEq]
      exact ⟨fun e => ⟨e, e ▸ hk⟩, And.left⟩
    · rename_i hk
      simp only [Outcome.reject_ne_ok, Json.str.injEq, false_iff, not_and]
      exact fun e => e ▸ hk
  · rename_i hv
    simp only [Outcome.reject_ne_ok, false_iff, not_and]
    exact fun e => absurd e (hv kind)

/-! ## Grants -/

theorem checkGrant_eq_ok {isFile : Bool} {grantee : RawText} {v : Json} {g : RawText × String} :
    checkGrant isFile grantee v = .ok g ↔
      ∃ level, v = .str level ∧ level ∈ Matcher.permissionLevels ∧
        (grantee = .text publicGrantee → isFile ∧ level = "view") ∧ (grantee, level) = g := by
  unfold checkGrant
  split
  · rename_i level
    by_cases hlevel : level ∈ Matcher.permissionLevels
    · by_cases heveryone : grantee = .text publicGrantee && !(isFile && level = "view")
      · simp only [hlevel, not_true_eq_false, heveryone, ↓reduceIte, Outcome.reject_ne_ok,
          Json.str.injEq, false_iff, not_exists, not_and]
        rintro _ rfl _ hview _
        simp only [Bool.and_eq_true, Bool.not_eq_true', decide_eq_true_eq] at heveryone
        simp [hview heveryone.1] at heveryone
      · simp only [hlevel, not_true_eq_false, heveryone, Bool.false_eq_true, ↓reduceIte,
          Except.ok.injEq, Json.str.injEq]
        have hview : grantee = .text publicGrantee → isFile ∧ level = "view" := by
          simpa using heveryone
        constructor
        · exact fun h => ⟨level, rfl, hlevel, hview, h⟩
        · rintro ⟨_, rfl, _, _, h⟩
          exact h
    · simp only [hlevel, not_false_eq_true, ↓reduceIte, Outcome.reject_ne_ok, Json.str.injEq,
        false_iff, not_exists, not_and]
      rintro _ rfl hmem
      exact absurd hmem hlevel
  · rename_i hv
    simp only [Outcome.reject_ne_ok, false_iff, not_exists, not_and]
    exact fun level h => absurd h (hv level)

def rawGrant (g : String × String) : RawText × String := (.text g.1, g.2)

theorem encodeGrant_eq_ok {g : RawText × String} {grant : String × String} :
    encodeGrant g = .ok grant ↔ g = rawGrant grant := by
  simp only [encodeGrant, rawGrant, Outcome.bind_eq_ok, Outcome.pure_eq_ok, RawText.encode_eq_ok,
    Prod.ext_iff]
  constructor
  · rintro ⟨_, hname, rfl, hlevel⟩
    exact ⟨hname, hlevel⟩
  · rintro ⟨hname, hlevel⟩
    exact ⟨_, hname, rfl, hlevel⟩

theorem names_of_checked {isFile : Bool} {entries : Json.Object} {given : List (RawText × String)}
    (h : List.Forall₂ (fun e g => checkGrant isFile e.1 e.2 = .ok g) entries given) :
    Entries.names entries = Entries.names given := by
  induction h with
  | nil => rfl
  | cons hg _ ih =>
    obtain ⟨_, _, _, _, rfl⟩ := checkGrant_eq_ok.mp hg
    exact congrArg _ ih

theorem names_of_checkGrant {isFile : Bool} {entries : Json.Object} {grants : Entries String}
    (h : List.Forall₂ (fun e g => checkGrant isFile e.1 e.2 = .ok (rawGrant g)) entries grants) :
    Entries.names entries = (Entries.names grants).map .text := by
  rw [names_of_checked (List.forall₂_map_right_iff.mpr h)]
  simp [Entries.names, rawGrant]

theorem checkPermissions_eq_ok {isFile : Bool} {v : Json} {grants : Entries String} :
    checkPermissions limits s isFile v = .ok grants ↔
      ∃ entries, v = .obj entries ∧
        List.Forall₂ (fun e g => checkGrant isFile e.1 e.2 = .ok (rawGrant g)) entries grants ∧
        (entries.length : Int) ≤ limits.maxPermissions ∧
        ∀ g ∈ grants, g.1 ≠ publicGrantee → s.hasUser g.1 := by
  have hknown : ∀ grants : Entries String,
      s.firstUnknownUser? ((Entries.names grants).filter (· ≠ publicGrantee)) = none ↔
        ∀ g ∈ grants, g.1 ≠ publicGrantee → s.hasUser g.1 := by
    intro grants
    simp [Store.firstUnknownUser?, Entries.names]
  cases v with
  | obj entries =>
    simp only [checkPermissions, Outcome.bind_eq_ok, Outcome.mapM_eq_ok, Json.obj.injEq]
    constructor
    · rintro ⟨given, hchecked, hrest⟩
      split at hrest
      · simp at hrest
      · rename_i hfew
        obtain ⟨checked, hgiven, hlookup⟩ := Outcome.bind_eq_ok.mp hrest
        obtain rfl := (Outcome.mapM_eq_ok_iff_map encodeGrant_eq_ok).mp hgiven
        split at hlookup
        · simp at hlookup
        · rename_i hnone
          cases hlookup
          rw [List.forall₂_map_right_iff] at hchecked
          exact ⟨entries, rfl, hchecked, Int.not_lt.mp hfew, (hknown grants).mp hnone⟩
    · rintro ⟨_, rfl, hchecked, hfew, hall⟩
      refine ⟨grants.map rawGrant, List.forall₂_map_right_iff.mpr hchecked, ?_⟩
      rw [if_neg (Int.not_lt.mpr hfew),
        (Outcome.mapM_eq_ok_iff_map encodeGrant_eq_ok).mpr rfl, Outcome.ok_bind,
        (hknown grants).mpr hall]
      rfl
  | _ => simp [checkPermissions]

/-! ## Contents -/

def mostContents (limits : Settings) (kind : String) : Int :=
  if kind = symlinkKind then 1 else limits.maxContents

theorem firstMissing?_eq_none {items : List Json} {ids : List String}
    (h : items.length = ids.length) :
    firstMissing? s items ids = none ↔ ∀ id ∈ ids, s.hasNode id := by
  induction items generalizing ids with
  | nil =>
    cases ids with
    | nil => simp [firstMissing?]
    | cons id ids => simp at h
  | cons item items ih =>
    cases ids with
    | nil => simp at h
    | cons id ids =>
      have ih := ih (Nat.succ.inj h)
      by_cases hid : s.hasNode id <;> simp [firstMissing?, hid, ih]

theorem checkContents_arr (kind : String) (items : List Json) :
    checkContents limits s kind (.arr items) =
      if mostContents limits kind < items.length then reject (.tooMany "content node_ids")
      else do
        let ids ← items.mapM (Identifier.parse (some "contents"))
        match firstMissing? s items ids with
        | some item => reject (.notFound item "node_id")
        | none => return ids.eraseDups := rfl

theorem checkContents_eq_ok {kind : String} {v : Json} {ids : List String} :
    checkContents limits s kind v = .ok ids ↔
      ∃ items parsed, v = .arr items ∧ (items.length : Int) ≤ mostContents limits kind ∧
        List.Forall₂ (fun item id => Identifier.parse (some "contents") item = .ok id) items
          parsed ∧
        (∀ id ∈ parsed, s.hasNode id) ∧ parsed.eraseDups = ids := by
  cases v with
  | arr items =>
    rw [checkContents_arr]
    by_cases hmany : mostContents limits kind < items.length
    · simp only [if_pos hmany, Outcome.reject_ne_ok, Json.arr.injEq, false_iff, not_exists]
      rintro _ _ ⟨rfl, hfew, _⟩
      omega
    · simp only [if_neg hmany, Outcome.bind_eq_ok, Outcome.mapM_eq_ok, Json.arr.injEq]
      constructor
      · rintro ⟨parsed, hparsed, hrest⟩
        split at hrest
        · simp at hrest
        · rename_i hnone
          cases hrest
          exact ⟨items, parsed, rfl, Int.not_lt.mp hmany, hparsed,
            (firstMissing?_eq_none hparsed.length_eq).mp hnone, rfl⟩
      · rintro ⟨_, parsed, rfl, _, hparsed, hall, rfl⟩
        refine ⟨parsed, hparsed, ?_⟩
        rw [(firstMissing?_eq_none hparsed.length_eq).mpr hall]
        rfl
  | _ => simp [checkContents]

/-! ## New nodes -/

def NewNode.raw : NewNode String → NewNode RawText
  | .file name text tags lock grants => .file name text (tags.map .text) lock grants
  | .metaNode kind name contents grants => .metaNode kind name contents grants

@[simp] theorem NewNode.name_raw (row : NewNode String) : row.raw.name = .text row.name := by
  cases row <;> rfl

theorem NewNode.encode_eq_ok {fields : NewNode RawText} {row : NewNode String} :
    fields.encode = .ok row ↔ fields = row.raw := by
  cases fields <;> cases row <;>
    simp [encode, raw, Outcome.bind_eq_ok, Outcome.map_eq_ok, RawText.encode_eq_ok,
      RawText.mapM_encode_eq_ok] <;> tauto

theorem NewNode.raw_injective : Function.Injective NewNode.raw := fun _ _ h =>
  Except.ok.inj ((encode_eq_ok.mpr rfl).symm.trans (encode_eq_ok.mpr h))

theorem NewNode.encode_fails (fields : NewNode RawText) :
    Outcome.FailsOnly fields.encode (· = .broken .notEncodable) := by
  cases fields with
  | file name text tags lock grants =>
    exact (RawText.encode_fails name).bind fun _ _ =>
      (Outcome.FailsOnly.mapM fun tag _ => RawText.encode_fails tag).bind fun _ _ =>
        Outcome.failsOnly_pure _
  | metaNode kind name contents grants =>
    exact (RawText.encode_fails name).bind fun _ _ => Outcome.failsOnly_pure _

inductive Accepts (limits : Settings) (s : Store) (body : Json.Object) : NewNode String → Prop
  | file {name text : String} {tags : List String} {lock : Json} {grants : Entries String}
      (hkind : Json.Object.get body "type" = .str fileKind)
      (hname : checkName limits (Json.Object.get body "name") = .ok name)
      (hgrants : checkPermissions limits s true (Json.Object.get body "permissions") = .ok grants)
      (htext : checkText limits (Json.Object.get body "text") = .ok text)
      (htags : checkTags limits (Json.Object.get body "tags") = .ok (tags.map .text))
      (hlock : checkLock limits (Json.Object.get body "lock") = .ok lock)
      (hknown : Fields.checkKnown newFileFields body = .ok ()) :
      Accepts limits s body (.file name text tags lock grants)
  | metaNode {kind name : String} {contents : List String} {grants : Entries String}
      (hkind : Json.Object.get body "type" = .str kind) (hallowed : kind ∈ nodeKinds)
      (hother : kind ≠ fileKind)
      (hname : checkName limits (Json.Object.get body "name") = .ok name)
      (hgrants : checkPermissions limits s false (Json.Object.get body "permissions") = .ok grants)
      (hcontents :
        checkContents limits s kind (Json.Object.get body "contents") = .ok contents)
      (hknown : Fields.checkKnown newMetaFields body = .ok ()) :
      Accepts limits s body (.metaNode kind name contents grants)

theorem checkNewFile_accepts {fields : NewNode String}
    (hkind : Json.Object.get body "type" = .str fileKind)
    (h : checkNewFile limits s body = .ok fields.raw) : Accepts limits s body fields := by
  obtain ⟨name, hname, h⟩ := Outcome.bind_eq_ok.mp h
  obtain ⟨grants, hgrants, h⟩ := Outcome.bind_eq_ok.mp h
  obtain ⟨text, htext, h⟩ := Outcome.bind_eq_ok.mp h
  obtain ⟨tags, htags, h⟩ := Outcome.bind_eq_ok.mp h
  obtain ⟨lock, hlock, h⟩ := Outcome.bind_eq_ok.mp h
  obtain ⟨_, hknown, h⟩ := Outcome.bind_eq_ok.mp h
  cases fields <;> cases h
  exact .file hkind hname hgrants htext htags hlock hknown

theorem checkNewMeta_accepts {kind : String} {fields : NewNode String}
    (hkind : Json.Object.get body "type" = .str kind) (hallowed : kind ∈ nodeKinds)
    (hother : kind ≠ fileKind) (h : checkNewMeta limits s kind body = .ok fields.raw) :
    Accepts limits s body fields := by
  obtain ⟨name, hname, h⟩ := Outcome.bind_eq_ok.mp h
  obtain ⟨grants, hgrants, h⟩ := Outcome.bind_eq_ok.mp h
  obtain ⟨contents, hcontents, h⟩ := Outcome.bind_eq_ok.mp h
  obtain ⟨_, hknown, h⟩ := Outcome.bind_eq_ok.mp h
  cases fields <;> cases h
  exact .metaNode hkind hallowed hother hname hgrants hcontents hknown

theorem checkNew_accepts {v : Json} {fields : NewNode String}
    (h : checkNew limits s v = .ok fields.raw) :
    ∃ body, v = .obj body ∧ Accepts limits s body fields := by
  cases v with
  | obj body =>
    refine ⟨body, rfl, ?_⟩
    obtain ⟨kind, hkind, h⟩ := Outcome.bind_eq_ok.mp h
    obtain ⟨hkind, hallowed⟩ := checkKind_eq_ok.mp hkind
    split at h
    · rename_i hfile
      exact checkNewFile_accepts (hfile ▸ hkind) h
    · rename_i hother
      exact checkNewMeta_accepts hkind hallowed hother h
  | _ => simp [checkNew] at h

/-! ## Patches -/

/-- The patch as a body spells it. -/
def Patch.raw (p : Patch String) : Patch RawText :=
  { p with name := p.name.map .text, tags := p.tags.map (List.map .text) }

theorem encodeIfPresent_eq_ok {α β : Type} {encode : α → Except Failure β} {spell : β → α}
    (h : ∀ {x y}, encode x = .ok y ↔ x = spell y) {o : Option α} {o' : Option β} :
    encodeIfPresent encode o = .ok o' ↔ o = o'.map spell := by
  cases o with
  | none => cases o' <;> simp [encodeIfPresent]
  | some a => cases o' <;> simp [encodeIfPresent, Outcome.map_eq_ok, h]

theorem Patch.encode_eq_ok {p : Patch RawText} {q : Patch String} :
    p.encode = .ok q ↔ p = q.raw := by
  simp only [encode, Outcome.bind_eq_ok, Outcome.pure_eq_ok,
    encodeIfPresent_eq_ok RawText.encode_eq_ok, encodeIfPresent_eq_ok RawText.mapM_encode_eq_ok]
  constructor
  · rintro ⟨name, hname, tags, htags, rfl⟩
    simp only [raw, ← hname, ← htags]
  · rintro rfl
    exact ⟨q.name, rfl, q.tags, rfl, rfl⟩

theorem encodeIfPresent_fails {α β : Type} {encode : α → Except Failure β} {P : Failure → Prop}
    (h : ∀ a, Outcome.FailsOnly (encode a) P) (o : Option α) :
    Outcome.FailsOnly (encodeIfPresent encode o) P := by
  cases o with
  | none => exact Outcome.failsOnly_ok _
  | some a => exact (h a).map some

theorem Patch.encode_fails (p : Patch RawText) :
    Outcome.FailsOnly p.encode (· = .broken .notEncodable) :=
  (encodeIfPresent_fails RawText.encode_fails p.name).bind fun _ _ =>
    (encodeIfPresent_fails (fun _ => .mapM fun tag _ => tag.encode_fails) p.tags).bind fun _ _ =>
      Outcome.failsOnly_pure _

structure AcceptsFilePatch (limits : Settings) (s : Store) (body : Json.Object)
    (p : Patch String) : Prop where
  name : Fields.ifPresent body "name" (checkName limits) = .ok (p.name.map .text)
  permissions :
    Fields.ifPresent body "permissions" (checkPermissions limits s true) = .ok p.permissions
  text : Fields.ifPresent body "text" (checkText limits) = .ok p.text
  tags : Fields.ifPresent body "tags" (checkTags limits) = .ok (p.tags.map (List.map .text))
  lock : Fields.ifPresent body "lock" (checkLock limits) = .ok p.lock
  owner : Fields.ifPresent body "owner" (checkOwner s) = .ok p.owner
  known : Fields.checkKnown filePatchFields body = .ok ()
  noContents : p.contents = none

structure AcceptsMetaPatch (limits : Settings) (s : Store) (kind : String) (body : Json.Object)
    (p : Patch String) : Prop where
  name : Fields.ifPresent body "name" (checkName limits) = .ok (p.name.map .text)
  permissions :
    Fields.ifPresent body "permissions" (checkPermissions limits s false) = .ok p.permissions
  contents : Fields.ifPresent body "contents" (checkContents limits s kind) = .ok p.contents
  owner : Fields.ifPresent body "owner" (checkOwner s) = .ok p.owner
  known : Fields.checkKnown metaPatchFields body = .ok ()
  noFileFields : p.text = none ∧ p.tags = none ∧ p.lock = none

theorem checkFilePatch_accepts {p : Patch String}
    (h : checkFilePatch limits s body = .ok p.raw) : AcceptsFilePatch limits s body p := by
  obtain ⟨name, hname, h⟩ := Outcome.bind_eq_ok.mp h
  obtain ⟨permissions, hpermissions, h⟩ := Outcome.bind_eq_ok.mp h
  obtain ⟨text, htext, h⟩ := Outcome.bind_eq_ok.mp h
  obtain ⟨tags, htags, h⟩ := Outcome.bind_eq_ok.mp h
  obtain ⟨lock, hlock, h⟩ := Outcome.bind_eq_ok.mp h
  obtain ⟨owner, howner, h⟩ := Outcome.bind_eq_ok.mp h
  obtain ⟨_, hknown, h⟩ := Outcome.bind_eq_ok.mp h
  cases p
  cases h
  exact ⟨hname, hpermissions, htext, htags, hlock, howner, hknown, rfl⟩

theorem checkMetaPatch_accepts {kind : String} {p : Patch String}
    (h : checkMetaPatch limits s kind body = .ok p.raw) :
    AcceptsMetaPatch limits s kind body p := by
  obtain ⟨name, hname, h⟩ := Outcome.bind_eq_ok.mp h
  obtain ⟨permissions, hpermissions, h⟩ := Outcome.bind_eq_ok.mp h
  obtain ⟨contents, hcontents, h⟩ := Outcome.bind_eq_ok.mp h
  obtain ⟨owner, howner, h⟩ := Outcome.bind_eq_ok.mp h
  obtain ⟨_, hknown, h⟩ := Outcome.bind_eq_ok.mp h
  rcases p with ⟨_, _, _, _ | _, _, _, _⟩ <;> cases h
  exact ⟨hname, hpermissions, hcontents, howner, hknown, rfl, rfl, rfl⟩

theorem AcceptsFilePatch.check_eq {p : Patch String} (h : AcceptsFilePatch limits s body p) :
    checkFilePatch limits s body = .ok p.raw := by
  obtain ⟨hname, hpermissions, htext, htags, hlock, howner, hknown, hnone⟩ := h
  cases p
  cases hnone
  simp only [checkFilePatch, hname, hpermissions, htext, htags, hlock, howner, hknown,
    Outcome.ok_bind]
  rfl

theorem AcceptsMetaPatch.check_eq {kind : String} {p : Patch String}
    (h : AcceptsMetaPatch limits s kind body p) :
    checkMetaPatch limits s kind body = .ok p.raw := by
  obtain ⟨hname, hpermissions, hcontents, howner, hknown, htext, htags, hlock⟩ := h
  cases p
  cases htext
  cases htags
  cases hlock
  simp only [checkMetaPatch, hname, hpermissions, hcontents, howner, hknown, Outcome.ok_bind]
  rfl

/-- Every field that a patch writes has passed the check of that field. -/
structure Patch.Checked (limits : Settings) (s : Store) (kind : String) (p : Patch String) :
    Prop where
  name : ∀ {name}, p.name = some name → ∃ v, checkName limits v = .ok name
  permissions : ∀ {grants}, p.permissions = some grants →
    ∃ v, checkPermissions limits s (kind = fileKind) v = .ok grants
  text : ∀ {text}, p.text = some text → ∃ v, checkText limits v = .ok text
  tags : ∀ {tags}, p.tags = some tags → ∃ v, checkTags limits v = .ok (tags.map .text)
  lock : ∀ {lock}, p.lock = some lock → ∃ v, checkLock limits v = .ok lock
  contents : ∀ {ids}, p.contents = some ids → ∃ v, checkContents limits s kind v = .ok ids

theorem AcceptsFilePatch.checked {p : Patch String} (h : AcceptsFilePatch limits s body p) :
    p.Checked limits s fileKind where
  name := Fields.ifPresent_map h.name
  permissions hp := by simpa using Fields.exists_of_ifPresent h.permissions hp
  text := Fields.exists_of_ifPresent h.text
  tags := Fields.ifPresent_map h.tags
  lock := Fields.exists_of_ifPresent h.lock
  contents hids := by simp [h.noContents] at hids

theorem AcceptsMetaPatch.checked {kind : String} (hkind : kind ≠ fileKind) {p : Patch String}
    (h : AcceptsMetaPatch limits s kind body p) : p.Checked limits s kind where
  name := Fields.ifPresent_map h.name
  permissions hp := by simpa [hkind] using Fields.exists_of_ifPresent h.permissions hp
  text ht := by simp [h.noFileFields] at ht
  tags ht := by simp [h.noFileFields] at ht
  lock hl := by simp [h.noFileFields] at hl
  contents := Fields.exists_of_ifPresent h.contents

theorem checkPatch_checked {kind : String} {v : Json} {p : Patch String}
    (h : checkPatch limits s kind v = .ok p.raw) : p.Checked limits s kind := by
  cases v with
  | obj body =>
    simp only [checkPatch] at h
    split at h
    · rename_i hkind
      exact hkind ▸ (checkFilePatch_accepts h).checked
    · rename_i hkind
      exact (checkMetaPatch_accepts h).checked hkind
  | _ => simp [checkPatch] at h

theorem checkPatch_contents {kind : String} {v : Json} {p : Patch String} {ids : List String}
    (h : checkPatch limits s kind v = .ok p.raw) (hids : p.contents = some ids) :
    ∃ w, checkContents limits s kind w = .ok ids :=
  (checkPatch_checked h).contents hids

theorem checkPatch_permissions {kind : String} {v : Json} {p : Patch String}
    {grants : Entries String} (h : checkPatch limits s kind v = .ok p.raw)
    (hgrants : p.permissions = some grants) :
    ∃ w, checkPermissions limits s (kind = fileKind) w = .ok grants :=
  (checkPatch_checked h).permissions hgrants

end Body

/-! ## What bodies are checked against -/

/-- The stores hold the same usernames and the same identifiers of nodes. -/
structure Store.KnowsAlike (s t : Store) : Prop where
  users : s.hasUser = t.hasUser
  nodes : s.hasNode = t.hasNode

namespace Body
variable {s t : Store} (h : s.KnowsAlike t) (limits : Settings)
include h

theorem checkPermissions_congr (isFile : Bool) :
    checkPermissions limits s isFile = checkPermissions limits t isFile := by
  funext v
  cases v with
  | obj entries => simp only [checkPermissions, Store.firstUnknownUser?, h.users]
  | _ => rfl

omit limits in
theorem firstMissing?_congr (items : List Json) (ids : List String) :
    firstMissing? s items ids = firstMissing? t items ids := by
  induction items generalizing ids with
  | nil => rfl
  | cons item items ih =>
    cases ids with
    | nil => rfl
    | cons id ids => simp only [firstMissing?, h.nodes, ih]

theorem checkContents_congr (kind : String) :
    checkContents limits s kind = checkContents limits t kind := by
  funext v
  cases v with
  | arr items => simp only [checkContents, firstMissing?_congr h]
  | _ => rfl

omit limits in
theorem checkOwner_congr : checkOwner s = checkOwner t := by
  funext v
  cases v with
  | str username => simp only [checkOwner, h.users]
  | _ => rfl

theorem checkNew_congr : checkNew limits s = checkNew limits t := by
  funext v
  cases v with
  | obj body =>
    simp only [checkNew, checkNewFile, checkNewMeta, checkPermissions_congr h,
      checkContents_congr h]
  | _ => rfl

theorem checkPatch_congr (kind : String) : checkPatch limits s kind = checkPatch limits t kind := by
  funext v
  cases v with
  | obj body =>
    simp only [checkPatch, checkFilePatch, checkMetaPatch, checkPermissions_congr h,
      checkContents_congr h, checkOwner_congr h]
  | _ => rfl

end Body
end FileShare

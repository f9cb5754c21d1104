import FileShare.Proofs.AcceptedFields
import FileShare.Proofs.Identifiers
import FileShare.Proofs.Rules

/-! # The rules for bodies

The rules that the body of a new node and the body of a patch are checked by, in their order, and
what the bodies look like that meet them. Some rules of a field only arise where earlier ones of it
are met, as those for the members of a list: the rules are read off the value. A text that is
measured in bytes or looked up needs a UTF-8 form, and without one the check breaks down.
-/
namespace FileShare
open Outcome Rule

namespace Body

/-! ## What the fields look like -/

def IsText (least most : Int) (v : Json) : Prop :=
  ∃ text : RawText, v = .ofText text ∧ least ≤ text.length ∧ (text.length : Int) ≤ most

/-- A grant names a level; everyone may only be granted to view a file. -/
def IsGrant (isFile : Bool) (e : RawText × Json) : Prop :=
  ∃ level ∈ Matcher.permissionLevels, e.2 = .str level ∧
    (e.1 = .text publicGrantee → isFile ∧ level = "view")

def NamesUser (s : Store) (grantee : RawText) : Prop :=
  ∃ username, grantee = .text username ∧ s.hasUser username

def ArePermissions (limits : Settings) (s : Store) (isFile : Bool) (v : Json) : Prop :=
  ∃ entries : Json.Object, v = .obj entries ∧ (entries.length : Int) ≤ limits.maxPermissions ∧
    ∀ e ∈ entries, IsGrant isFile e ∧ (e.1 ≠ .text publicGrantee → NamesUser s e.1)

/-- A text whose length in bytes lies within the limit. -/
def IsContent (limits : Settings) (v : Json) : Prop :=
  ∃ text : String, v = .str text ∧ (text.utf8ByteSize : Int) ≤ limits.maxTextBytes

def AreTags (limits : Settings) (v : Json) : Prop :=
  ∃ items : List Json, v = .arr items ∧ (items.length : Int) ≤ limits.maxTags ∧
    ∀ item ∈ items, IsText 1 limits.maxTagLength item

def IsIdentifier (v : Json) : Prop := ∃ id, v = .str id ∧ Identifier.isValid id

/-- An identifier, in either case, of a node that is there. -/
def NamesNode (s : Store) (v : Json) : Prop :=
  ∃ id, v = .str id ∧ Identifier.isValid id ∧ s.hasNode (Text.lower id)

def AreContents (limits : Settings) (s : Store) (kind : String) (v : Json) : Prop :=
  ∃ items : List Json, v = .arr items ∧ (items.length : Int) ≤ mostContents limits kind ∧
    ∀ item ∈ items, NamesNode s item

def IsOwner (s : Store) (v : Json) : Prop := ∃ username, v = .str username ∧ s.hasUser username

/-! ## What the bodies look like -/

inductive IsNew (limits : Settings) (s : Store) : Json → Prop
  | file {body : Json.Object} (kind : Json.Object.get body "type" = .str fileKind)
      (name : IsText 1 limits.maxNameLength (Json.Object.get body "name"))
      (permissions : ArePermissions limits s true (Json.Object.get body "permissions"))
      (text : IsContent limits (Json.Object.get body "text"))
      (tags : AreTags limits (Json.Object.get body "tags"))
      (lock : IsLock limits (Json.Object.get body "lock"))
      (known : ∀ field ∈ Entries.names body, field ∈ newFileFields) : IsNew limits s (.obj body)
  | metaNode {body : Json.Object} {kind : String} (legal : kind ∈ nodeKinds)
      (other : kind ≠ fileKind) (hkind : Json.Object.get body "type" = .str kind)
      (name : IsText 1 limits.maxNameLength (Json.Object.get body "name"))
      (permissions : ArePermissions limits s false (Json.Object.get body "permissions"))
      (contents : AreContents limits s kind (Json.Object.get body "contents"))
      (known : ∀ field ∈ Entries.names body, field ∈ newMetaFields) : IsNew limits s (.obj body)

def Present (body : Json.Object) (field : String) (P : Json → Prop) : Prop :=
  ∀ v, Entries.get? body field = some v → P v

inductive IsPatch (limits : Settings) (s : Store) : String → Json → Prop
  | file {body : Json.Object} (name : Present body "name" (IsText 1 limits.maxNameLength))
      (permissions : Present body "permissions" (ArePermissions limits s true))
      (text : Present body "text" (IsContent limits))
      (tags : Present body "tags" (AreTags limits))
      (lock : Present body "lock" (IsLock limits))
      (owner : Present body "owner" (IsOwner s))
      (known : ∀ field ∈ Entries.names body, field ∈ filePatchFields) :
      IsPatch limits s fileKind (.obj body)
  | metaNode {body : Json.Object} {kind : String} (other : kind ≠ fileKind)
      (name : Present body "name" (IsText 1 limits.maxNameLength))
      (permissions : Present body "permissions" (ArePermissions limits s false))
      (contents : Present body "contents" (AreContents limits s kind))
      (owner : Present body "owner" (IsOwner s))
      (known : ∀ field ∈ Entries.names body, field ∈ metaPatchFields) :
      IsPatch limits s kind (.obj body)

/-- The body of a new node, or of a patch of a node of the given kind. -/
def IsBody (limits : Settings) (s : Store) : Option String → Json → Prop
  | none => IsNew limits s
  | some kind => IsPatch limits s kind

/-! ## The rules for the fields -/

/-- A text has a UTF-8 form. -/
def encodingRule (text : RawText) : Rule where
  holds := ∃ encoded, text = .text encoded
  failure := .broken .notEncodable

def encodingRules (v : Json) : List Rule := v.text?.toList.map encodingRule

def lengthRule (field : String) (least most : Int) (v : Json) : Rule :=
  demand (IsText least most v) (.badLength field (.within least most) .text)

def permissionRules (limits : Settings) (s : Store) (isFile : Bool) : Json → List Rule
  | .obj entries =>
    (entries.map fun e => demand (IsGrant isFile e) (.badEntries "permissions")) ++
      demand ((entries.length : Int) ≤ limits.maxPermissions) (.tooMany "permissions") ::
      ((Entries.names entries).map encodingRule ++
        ((Entries.names entries).filter (· ≠ .text publicGrantee)).map fun grantee =>
          demand (NamesUser s grantee) (.notFound (.ofText grantee) "user (permissions)"))
  | _ => [never (.badField "permissions")]

def contentRules (limits : Settings) (v : Json) : List Rule :=
  encodingRules v ++
    [demand (IsContent limits v) (.badLength "text" (.within 0 limits.maxTextBytes) .bytes)]

def tagRules (limits : Settings) : Json → List Rule
  | .arr items =>
    demand ((items.length : Int) ≤ limits.maxTags) (.tooMany "tags") ::
      items.map (lengthRule "tags" 1 limits.maxTagLength)
  | _ => [never (.badField "tags")]

def lockRules (limits : Settings) : Json → List Rule
  | .null => []
  | .obj entries => [
      demand (∃ user, Json.Object.get entries "user" = .str user ∧ Username.isShaped limits user)
        (.badLength "lock.user" (.within limits.minUsernameLength limits.maxUsernameLength) .text),
      lengthRule "lock.client" 1 limits.maxLockClientLength (Json.Object.get entries "client"),
      demand (∃ time, Json.Object.get entries "createdAt" = .num time ∧ time.isFinite ∧
        0 < time.value) (.badField "lock.createdAt"),
      demand (∀ name ∈ Entries.names entries, name ∈ lockFields) (.badEntries "lock")]
  | _ => [never (.badField "lock")]

def contentsRules (limits : Settings) (s : Store) (kind : String) : Json → List Rule
  | .arr items =>
    demand ((items.length : Int) ≤ mostContents limits kind) (.tooMany "content node_ids") ::
      (items.map fun item => demand (IsIdentifier item) (.badIdentifier item (some "contents"))) ++
      items.map fun item => demand (NamesNode s item) (.notFound item "node_id")
  | _ => [never (.badField "contents")]

def ownerRules (s : Store) (v : Json) : List Rule :=
  encodingRules v ++ [demand (IsOwner s v) (.notFound v "user")]

def knownRules (allowed : List RawText) (body : Json.Object) : List Rule :=
  (Entries.names body).map fun field => demand (field ∈ allowed) (.unknownField field)

def kindRule (v : Json) : Rule := demand (∃ kind ∈ nodeKinds, v = .str kind) (.badField "type")

/-! ## The rules for bodies -/

section Rules
variable (limits : Settings) (s : Store)

def newFileRules (body : Json.Object) : List Rule := [
  [lengthRule "name" 1 limits.maxNameLength (Json.Object.get body "name")],
  permissionRules limits s true (Json.Object.get body "permissions"),
  contentRules limits (Json.Object.get body "text"),
  tagRules limits (Json.Object.get body "tags"),
  lockRules limits (Json.Object.get body "lock"),
  knownRules newFileFields body].flatten

def newMetaRules (kind : String) (body : Json.Object) : List Rule := [
  [lengthRule "name" 1 limits.maxNameLength (Json.Object.get body "name")],
  permissionRules limits s false (Json.Object.get body "permissions"),
  contentsRules limits s kind (Json.Object.get body "contents"),
  knownRules newMetaFields body].flatten

def whenPresent (body : Json.Object) (field : String) (rules : Json → List Rule) : List Rule :=
  match Entries.get? body field with
  | some v => rules v
  | none => []

def filePatchRules (body : Json.Object) : List Rule := [
  whenPresent body "name" fun v => [lengthRule "name" 1 limits.maxNameLength v],
  whenPresent body "permissions" (permissionRules limits s true),
  whenPresent body "text" (contentRules limits),
  whenPresent body "tags" (tagRules limits),
  whenPresent body "lock" (lockRules limits),
  whenPresent body "owner" (ownerRules s),
  knownRules filePatchFields body].flatten

def metaPatchRules (kind : String) (body : Json.Object) : List Rule := [
  whenPresent body "name" fun v => [lengthRule "name" 1 limits.maxNameLength v],
  whenPresent body "permissions" (permissionRules limits s false),
  whenPresent body "contents" (contentsRules limits s kind),
  whenPresent body "owner" (ownerRules s),
  knownRules metaPatchFields body].flatten

/-- The rules for a new node, or for a patch of a node of the given kind. What other fields a new
node has to have depends on its kind. -/
def rules : Option String → Json → List Rule
  | none, .obj body =>
    kindRule (Json.Object.get body "type") ::
      match Json.Object.get body "type" with
      | .str kind =>
        if kind = fileKind then newFileRules limits s body else newMetaRules limits s kind body
      | _ => []
  | some kind, .obj body =>
    if kind = fileKind then filePatchRules limits s body else metaPatchRules limits s kind body
  | _, _ => [never .notObject]

end Rules

/-! ## The checks of the fields follow the rules -/

section Fields
variable {limits : Settings} {s : Store}

theorem encode_follows (text : RawText) : Follows [encodingRule text] text.encode := by
  cases text with
  | text encoded => exact .met ⟨encoded, rfl⟩ (.accepts encoded)
  | unpaired => exact .fails (r := encodingRule _) nofun

theorem boundedText_follows (field : String) (least most : Int) (v : Json) :
    Follows [lengthRule field least most v] (boundedText field least most v) := by
  refine .single (exists_congr fun _ => boundedText_eq_ok) ?_
  unfold boundedText
  split
  · split <;> simp [lengthRule]
  · simp [lengthRule]

theorem checkGrant_follows (isFile : Bool) (e : RawText × Json) :
    Follows [demand (IsGrant isFile e) (.badEntries "permissions")]
      (checkGrant isFile e.1 e.2) := by
  refine .single ?_ ?_
  · simp only [checkGrant_eq_ok, IsGrant, holds_demand]
    constructor
    · rintro ⟨_, level, hlevel, legal, heveryone, _⟩
      exact ⟨level, legal, hlevel, heveryone⟩
    · rintro ⟨level, legal, hlevel, heveryone⟩
      exact ⟨_, level, hlevel, legal, heveryone, rfl⟩
  · unfold checkGrant
    split
    · split
      · simp
      · split <;> simp
    · simp

/-- The first name that no account has is that of the first rule that is violated. -/
theorem firstUnknownUser_follows {α : Type} (a : α) (names : List String) :
    Follows (names.map fun grantee =>
        demand (NamesUser s (.text grantee)) (.notFound (.str grantee) "user (permissions)"))
      (match s.firstUnknownUser? names with
        | some grantee => reject (.notFound (.str grantee) "user (permissions)")
        | none => pure a : Except Failure α) := by
  induction names with
  | nil => exact .accepts a
  | cons name names ih =>
    unfold Store.firstUnknownUser? at ih ⊢
    cases hname : s.hasUser name with
    | true =>
      rw [List.find?_cons_of_neg (by simp [hname])]
      exact .met ⟨name, rfl, hname⟩ ih
    | false =>
      rw [List.find?_cons_of_pos (by simp [hname])]
      exact .rejects (by simp [NamesUser, hname])

theorem encodeGrants_follows (given : List (RawText × String)) :
    Follows ((Entries.names given).map encodingRule) (given.mapM encodeGrant) := by
  rw [Entries.names, List.map_map]
  exact .mapM fun g _ => (encode_follows g.1).bind fun _ _ => .accepts _

theorem checkPermissions_follows (isFile : Bool) (v : Json) :
    Follows (permissionRules limits s isFile v) (checkPermissions limits s isFile v) := by
  cases v with
  | obj entries =>
    refine (Follows.mapM fun e _ => checkGrant_follows isFile e).bind fun given hgiven => ?_
    rw [names_of_checked (mapM_eq_ok.mp hgiven)]
    split
    · rename_i hmany
      exact .rejects (Int.not_le.mpr hmany)
    · rename_i hfew
      refine .met (Int.not_lt.mp hfew) ((encodeGrants_follows given).bind fun grants hgrants => ?_)
      obtain rfl := (mapM_eq_ok_iff_map encodeGrant_eq_ok).mp hgrants
      have hnames : (Entries.names (grants.map rawGrant)).filter (· ≠ .text publicGrantee) =
          ((Entries.names grants).filter (· ≠ publicGrantee)).map .text := by
        simp [Entries.names, List.filter_map, rawGrant, Function.comp_def]
      rw [hnames, List.map_map]
      exact firstUnknownUser_follows grants _
  | _ => exact .rejects id

theorem checkText_follows (v : Json) : Follows (contentRules limits v) (checkText limits v) := by
  unfold checkText contentRules encodingRules
  cases hv : v.text? with
  | none =>
    refine .rejects ?_
    rintro ⟨text, rfl, _⟩
    simp [Json.text?] at hv
  | some t =>
    refine (encode_follows t).bind fun text htext => ?_
    obtain rfl := RawText.encode_eq_ok.mp htext
    have hcontent : IsContent limits v ↔ (text.utf8ByteSize : Int) ≤ limits.maxTextBytes := by
      rw [Json.text?_eq_some.mp hv]
      simp [IsContent, Json.ofText]
    refine .single ?_ ?_ <;> split <;> simp_all [pure_eq_ok]

theorem checkTags_follows (v : Json) : Follows (tagRules limits v) (checkTags limits v) := by
  cases v with
  | arr items =>
    simp only [checkTags]
    split
    · rename_i hmany
      exact .rejects (Int.not_le.mpr hmany)
    · rename_i hfew
      exact .met (Int.not_lt.mp hfew)
        (.mapM fun item _ => boundedText_follows "tags" 1 limits.maxTagLength item)
  | _ => exact .rejects id

theorem checkLockUser_follows (v : Json) :
    Follows [demand (∃ user, v = .str user ∧ Username.isShaped limits user) (.badLength "lock.user"
      (.within limits.minUsernameLength limits.maxUsernameLength) .text)]
      (checkLockUser limits v) := by
  refine .single ?_ ?_
  · simp [checkLockUser_eq_ok]
  · unfold checkLockUser
    split
    · split <;> simp
    · simp

theorem checkLockTime_follows (v : Json) :
    Follows [demand (∃ time, v = .num time ∧ time.isFinite ∧ 0 < time.value)
      (.badField "lock.createdAt")] (checkLockTime v) := by
  refine .single ?_ ?_
  · simp [checkLockTime_eq_ok]
  · unfold checkLockTime
    split
    · split <;> simp
    · simp

theorem checkLock_follows (v : Json) : Follows (lockRules limits v) (checkLock limits v) := by
  cases v with
  | null => exact .accepts _
  | obj entries =>
    refine (checkLockUser_follows _).bind fun _ _ => ?_
    refine ((boundedText_follows _ _ _ _).map _).bind fun _ _ => ?_
    refine (checkLockTime_follows _).bind fun _ _ => ?_
    refine .single ?_ ?_
    · simp only [List.all_eq_true, decide_eq_true_eq]
      split <;> simp_all [pure_eq_ok]
    · split <;> simp
  | _ => exact .rejects id

theorem firstMissing_follows {α : Type} (a : α) {items : List Json} {ids : List String}
    (hparsed : List.Forall₂ (fun item id => Identifier.parse (some "contents") item = .ok id) items
      ids) :
    Follows (items.map fun item => demand (NamesNode s item) (.notFound item "node_id"))
      (match firstMissing? s items ids with
        | some item => reject (.notFound item "node_id")
        | none => pure a : Except Failure α) := by
  induction hparsed with
  | nil => exact .accepts a
  | @cons item id items ids hid _ ih =>
    obtain ⟨raw, rfl, valid, rfl⟩ := Identifier.parse_eq_ok.mp hid
    cases hnode : s.hasNode (Text.lower raw) with
    | true =>
      simp only [firstMissing?, hnode, if_true]
      exact .met ⟨raw, rfl, valid, hnode⟩ ih
    | false =>
      simp only [firstMissing?, hnode, Bool.false_eq_true, if_false]
      refine .rejects ?_
      rintro ⟨_, ⟨⟩, _, hthere⟩
      simp [hnode] at hthere

theorem checkContents_follows (kind : String) (v : Json) :
    Follows (contentsRules limits s kind v) (checkContents limits s kind v) := by
  cases v with
  | arr items =>
    rw [checkContents_arr]
    split
    · rename_i hmany
      exact .rejects (Int.not_le.mpr hmany)
    · rename_i hfew
      refine .met (Int.not_lt.mp hfew) ?_
      exact (Follows.mapM fun item _ => Identifier.parse_follows _ item).bind fun ids hparsed =>
        firstMissing_follows ids.eraseDups (mapM_eq_ok.mp hparsed)
  | _ => exact .rejects id

theorem checkOwner_follows (v : Json) : Follows (ownerRules s v) (checkOwner s v) := by
  unfold checkOwner ownerRules encodingRules
  cases hv : v.text? with
  | none =>
    refine .rejects ?_
    rintro ⟨username, rfl, _⟩
    simp [Json.text?] at hv
  | some t =>
    refine (encode_follows t).bind fun username hname => ?_
    obtain rfl := RawText.encode_eq_ok.mp hname
    have howner : IsOwner s v ↔ s.hasUser username := by
      rw [Json.text?_eq_some.mp hv]
      simp [IsOwner, Json.ofText]
    refine .single ?_ ?_ <;> split <;> simp_all [pure_eq_ok]

theorem checkKnown_follows (allowed : List RawText) (body : Json.Object) :
    Follows (knownRules allowed body) (Fields.checkKnown allowed body) := by
  unfold Fields.checkKnown knownRules
  induction Entries.names body with
  | nil => exact .accepts ()
  | cons field fields ih =>
    by_cases hfield : field ∈ allowed
    · rw [List.find?_cons_of_neg (by simp [hfield])]
      exact .met hfield ih
    · rw [List.find?_cons_of_pos (by simp [hfield])]
      exact .rejects hfield

theorem checkKind_follows (v : Json) : Follows [kindRule v] (checkKind v) := by
  refine .single ?_ ?_
  · simp [checkKind_eq_ok, kindRule, and_comm]
  · unfold checkKind
    split
    · split <;> simp [kindRule]
    · simp [kindRule]

end Fields

/-! ## The checks of bodies follow the rules -/

section Bodies
variable {α : Type} (limits : Settings) (s : Store)

theorem ifPresent_follows (body : Json.Object) (field : String) {rules : Json → List Rule}
    {check : Json → Except Failure α} (h : ∀ v, Follows (rules v) (check v)) :
    Follows (whenPresent body field rules) (Fields.ifPresent body field check) := by
  unfold whenPresent Fields.ifPresent
  cases Entries.get? body field with
  | none => exact .accepts none
  | some v => exact (h v).map some

theorem checkNewFile_follows (body : Json.Object) :
    Follows (newFileRules limits s body) (checkNewFile limits s body) := by
  refine (boundedText_follows _ _ _ _).bind fun _ _ => ?_
  refine (checkPermissions_follows true _).bind fun _ _ => ?_
  refine (checkText_follows _).bind fun _ _ => ?_
  refine (checkTags_follows _).bind fun _ _ => ?_
  refine (checkLock_follows _).bind fun _ _ => ?_
  exact (checkKnown_follows newFileFields body).bind fun _ _ => .accepts _

theorem checkNewMeta_follows (kind : String) (body : Json.Object) :
    Follows (newMetaRules limits s kind body) (checkNewMeta limits s kind body) := by
  refine (boundedText_follows _ _ _ _).bind fun _ _ => ?_
  refine (checkPermissions_follows false _).bind fun _ _ => ?_
  refine (checkContents_follows kind _).bind fun _ _ => ?_
  exact (checkKnown_follows newMetaFields body).bind fun _ _ => .accepts _

theorem checkFilePatch_follows (body : Json.Object) :
    Follows (filePatchRules limits s body) (checkFilePatch limits s body) := by
  refine (ifPresent_follows body _ (boundedText_follows _ _ _)).bind fun _ _ => ?_
  refine (ifPresent_follows body _ (checkPermissions_follows true)).bind fun _ _ => ?_
  refine (ifPresent_follows body _ checkText_follows).bind fun _ _ => ?_
  refine (ifPresent_follows body _ checkTags_follows).bind fun _ _ => ?_
  refine (ifPresent_follows body _ checkLock_follows).bind fun _ _ => ?_
  refine (ifPresent_follows body _ checkOwner_follows).bind fun _ _ => ?_
  exact (checkKnown_follows filePatchFields body).bind fun _ _ => .accepts _

theorem checkMetaPatch_follows (kind : String) (body : Json.Object) :
    Follows (metaPatchRules limits s kind body) (checkMetaPatch limits s kind body) := by
  refine (ifPresent_follows body _ (boundedText_follows _ _ _)).bind fun _ _ => ?_
  refine (ifPresent_follows body _ (checkPermissions_follows false)).bind fun _ _ => ?_
  refine (ifPresent_follows body _ (checkContents_follows kind)).bind fun _ _ => ?_
  refine (ifPresent_follows body _ checkOwner_follows).bind fun _ _ => ?_
  exact (checkKnown_follows metaPatchFields body).bind fun _ _ => .accepts _

theorem checkNew_follows (v : Json) : Follows (rules limits s none v) (checkNew limits s v) := by
  cases v with
  | obj body =>
    refine (checkKind_follows _).bind fun kind hkind => ?_
    rw [(checkKind_eq_ok.mp hkind).1]
    dsimp only
    split
    · exact checkNewFile_follows limits s body
    · exact checkNewMeta_follows limits s kind body
  | _ => exact .rejects id

theorem checkPatch_follows (kind : String) (v : Json) :
    Follows (rules limits s (some kind) v) (checkPatch limits s kind v) := by
  cases v with
  | obj body =>
    simp only [rules, checkPatch]
    split
    · exact checkFilePatch_follows limits s body
    · exact checkMetaPatch_follows limits s kind body
  | _ => exact .rejects id

theorem check_returns {kind : Option String} {v w : Json} (h : check limits s kind v = .ok w) :
    w = v := by
  cases kind <;> obtain ⟨_, _, h⟩ := bind_eq_ok.mp h <;> exact (pure_eq_ok.mp h).symm

theorem check_follows (kind : Option String) (v : Json) :
    Follows (rules limits s kind v) (check limits s kind v) := by
  rw [← List.append_nil (rules limits s kind v)]
  cases kind with
  | none => exact ((checkNew_follows limits s v).map _).bind fun _ _ => .accepts v
  | some kind => exact ((checkPatch_follows limits s kind v).map _).bind fun _ _ => .accepts v

end Bodies

/-! ## What meets the rules -/

section Met
variable {limits : Settings} {s : Store}

theorem permissionRules_met {isFile : Bool} {v : Json} :
    (∀ r ∈ permissionRules limits s isFile v, r.holds) ↔ ArePermissions limits s isFile v := by
  cases v with
  | obj entries =>
    have hencoded : ∀ grantee, NamesUser s grantee ∨ grantee = .text publicGrantee →
        (encodingRule grantee).holds := by
      rintro _ (⟨username, rfl, _⟩ | rfl) <;> exact ⟨_, rfl⟩
    simp only [permissionRules, ArePermissions, List.forall_mem_append, List.forall_mem_cons,
      List.forall_mem_map, Json.obj.injEq, exists_eq_left', Entries.names, List.mem_filter,
      decide_eq_true_eq, and_imp, holds_demand]
    grind
  | _ => simp [permissionRules, ArePermissions, never]

theorem encodingRules_met_str (text : String) : ∀ r ∈ encodingRules (.str text), r.holds :=
  List.forall_mem_singleton.mpr ⟨text, rfl⟩

theorem contentRules_met {v : Json} :
    (∀ r ∈ contentRules limits v, r.holds) ↔ IsContent limits v := by
  rw [contentRules, List.forall_mem_append, List.forall_mem_singleton]
  refine and_iff_right_of_imp ?_
  rintro ⟨text, rfl, _⟩
  exact encodingRules_met_str text

theorem ownerRules_met {v : Json} : (∀ r ∈ ownerRules s v, r.holds) ↔ IsOwner s v := by
  rw [ownerRules, List.forall_mem_append, List.forall_mem_singleton]
  refine and_iff_right_of_imp ?_
  rintro ⟨username, rfl, _⟩
  exact encodingRules_met_str username

theorem tagRules_met {v : Json} : (∀ r ∈ tagRules limits v, r.holds) ↔ AreTags limits v := by
  cases v with
  | arr items => simp [tagRules, AreTags, lengthRule]
  | _ => simp [tagRules, AreTags, never]

theorem lockRules_met {v : Json} : (∀ r ∈ lockRules limits v, r.holds) ↔ IsLock limits v := by
  rw [← (checkLock_follows v).ok_iff]
  simp [checkLock_eq_ok]

theorem contentsRules_met {kind : String} {v : Json} :
    (∀ r ∈ contentsRules limits s kind v, r.holds) ↔ AreContents limits s kind v := by
  cases v with
  | arr items =>
    have hvalid : ∀ item, NamesNode s item → IsIdentifier item := by
      rintro _ ⟨id, rfl, valid, _⟩
      exact ⟨id, rfl, valid⟩
    simp only [contentsRules, AreContents, List.forall_mem_append, List.forall_mem_cons,
      List.forall_mem_map, Json.arr.injEq, exists_eq_left', holds_demand]
    grind
  | _ => simp [contentsRules, AreContents, never]

theorem knownRules_met {allowed : List RawText} {body : Json.Object} :
    (∀ r ∈ knownRules allowed body, r.holds) ↔ ∀ field ∈ Entries.names body, field ∈ allowed := by
  simp [knownRules]

theorem whenPresent_met {body : Json.Object} {field : String} {rules : Json → List Rule} :
    (∀ r ∈ whenPresent body field rules, r.holds) ↔
      Present body field fun v => ∀ r ∈ rules v, r.holds := by
  unfold whenPresent Present
  cases Entries.get? body field <;> simp

theorem newFileRules_met {body : Json.Object}
    (kind : Json.Object.get body "type" = .str fileKind) :
    (∀ r ∈ newFileRules limits s body, r.holds) ↔ IsNew limits s (.obj body) := by
  simp only [newFileRules, List.flatten_cons, List.flatten_nil, List.append_nil,
    List.forall_mem_append, List.forall_mem_singleton, permissionRules_met, contentRules_met,
    tagRules_met, lockRules_met, knownRules_met]
  constructor
  · rintro ⟨name, permissions, text, tags, lock, known⟩
    exact .file kind name permissions text tags lock known
  · intro h
    cases h with
    | file _ name permissions text tags lock known =>
      exact ⟨name, permissions, text, tags, lock, known⟩
    | metaNode _ other hkind => exact absurd (Json.str.inj (hkind.symm.trans kind)) other

theorem newMetaRules_met {body : Json.Object} {kind : String} (legal : kind ∈ nodeKinds)
    (other : kind ≠ fileKind) (hkind : Json.Object.get body "type" = .str kind) :
    (∀ r ∈ newMetaRules limits s kind body, r.holds) ↔ IsNew limits s (.obj body) := by
  simp only [newMetaRules, List.flatten_cons, List.flatten_nil, List.append_nil,
    List.forall_mem_append, List.forall_mem_singleton, permissionRules_met, contentsRules_met,
    knownRules_met]
  constructor
  · rintro ⟨name, permissions, contents, known⟩
    exact .metaNode legal other hkind name permissions contents known
  · intro h
    cases h with
    | file hfile => exact absurd (Json.str.inj (hkind.symm.trans hfile)) other
    | metaNode _ _ hkind' name permissions contents known =>
      obtain rfl := Json.str.inj (hkind.symm.trans hkind')
      exact ⟨name, permissions, contents, known⟩

theorem IsNew.kind {body : Json.Object} (h : IsNew limits s (.obj body)) :
    ∃ kind ∈ nodeKinds, Json.Object.get body "type" = .str kind := by
  cases h with
  | file kind => exact ⟨fileKind, List.mem_cons_self, kind⟩
  | metaNode legal _ hkind => exact ⟨_, legal, hkind⟩

theorem newRules_met {v : Json} :
    (∀ r ∈ rules limits s none v, r.holds) ↔ IsNew limits s v := by
  cases v with
  | obj body =>
    rw [rules, List.forall_mem_cons]
    -- The other rules matter only where the first one is met, and then the kind is known.
    refine (and_congr_right fun ⟨kind, legal, hkind⟩ => ?_).trans
      (and_iff_right_of_imp IsNew.kind)
    rw [hkind]
    dsimp only
    split
    · rename_i hfile
      exact newFileRules_met (hfile ▸ hkind)
    · rename_i other
      exact newMetaRules_met legal other hkind
  | _ =>
    refine iff_of_false (fun met => met _ List.mem_cons_self) ?_
    rintro ⟨⟩

theorem patchRules_met {kind : String} {v : Json} :
    (∀ r ∈ rules limits s (some kind) v, r.holds) ↔ IsPatch limits s kind v := by
  cases v with
  | obj body =>
    rw [rules]
    split
    · rename_i hfile
      subst hfile
      simp only [filePatchRules, List.flatten_cons, List.flatten_nil, List.append_nil,
        List.forall_mem_append, whenPresent_met, List.forall_mem_singleton, permissionRules_met,
        contentRules_met, tagRules_met, lockRules_met, ownerRules_met, knownRules_met]
      constructor
      · rintro ⟨name, permissions, text, tags, lock, owner, known⟩
        exact .file name permissions text tags lock owner known
      · intro h
        cases h with
        | file name permissions text tags lock owner known =>
          exact ⟨name, permissions, text, tags, lock, owner, known⟩
        | metaNode other => exact absurd rfl other
    · rename_i other
      simp only [metaPatchRules, List.flatten_cons, List.flatten_nil, List.append_nil,
        List.forall_mem_append, whenPresent_met, List.forall_mem_singleton, permissionRules_met,
        contentsRules_met, ownerRules_met, knownRules_met]
      constructor
      · rintro ⟨name, permissions, contents, owner, known⟩
        exact .metaNode other name permissions contents owner known
      · intro h
        cases h with
        | file => exact absurd rfl other
        | metaNode _ name permissions contents owner known =>
          exact ⟨name, permissions, contents, owner, known⟩
  | _ =>
    refine iff_of_false (fun met => met _ List.mem_cons_self) ?_
    rintro ⟨⟩

theorem rules_met {kind : Option String} {v : Json} :
    (∀ r ∈ rules limits s kind v, r.holds) ↔ IsBody limits s kind v := by
  cases kind with
  | none => exact newRules_met
  | some kind => exact patchRules_met

end Met

end Body

/-- The bodies that a check accepts, and hands back, are those that the rules describe. With any
other the check fails as the first rule says that the body violates, in the order of the rules: that
it is an object, its kind, name, permissions, text, tags and lock or contents, owner, and unknown
fields. The cause is one to reject with, except where a grantee, the text or the owner has no UTF-8
form: there the check breaks down. -/
theorem bodies_follow_rules (limits : Settings) (s : Store) (kind : Option String) (v : Json) :
    (∀ w, Body.check limits s kind v = .ok w ↔ w = v ∧ Body.IsBody limits s kind v) ∧
      ∀ e, Body.check limits s kind v = .error e ↔
        FirstViolated (Body.rules limits s kind v) e := by
  have follows := Body.check_follows limits s kind v
  refine ⟨fun w => ?_, fun e => follows.error_iff⟩
  rw [← Body.rules_met, ← follows.ok_iff]
  constructor
  · intro h
    exact ⟨Body.check_returns limits s h, w, h⟩
  · rintro ⟨rfl, v, h⟩
    exact Body.check_returns limits s h ▸ h

namespace Sample

def halfGranted : Json := .obj [("permissions", .obj halfGrants)]

end Sample

/-- The grants are in form and the first grantee is no user, and yet the patch is not rejected. -/
theorem body_check_breaks_on_unpaired_grantee :
    (∀ grant ∈ Sample.halfGrants, Body.IsGrant true grant) ∧
    ¬ Body.NamesUser {} "nobody" ∧
    Body.check {} {} (some fileKind) Sample.halfGranted = breakDown .notEncodable ∧
    Body.check {} {} (some fileKind) Sample.halfGranted ≠
      reject (.notFound (.str "nobody") "user (permissions)") := by
  refine ⟨?_, ?_, rfl, nofun⟩
  · intro grant hgrant
    rcases List.mem_pair.mp hgrant with rfl | rfl
    · exact ⟨"view", by decide, rfl, nofun⟩
    · exact ⟨"view", by decide, rfl, nofun⟩
  · rintro ⟨name, _, hname⟩
    cases hname

end FileShare

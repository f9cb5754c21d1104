import FileShare.Proofs.Bodies

/-! # How bodies are refused

The checks of bodies refuse what does not fit and report what is missing. A report is true: what it
names is not in the store. Besides, they break down on some texts without a UTF-8 form; a body
without such texts is accepted or rejected.
-/
namespace FileShare

/-- If something is reported as missing, then it is of the given sort. -/
def Outcome.ReportsOnly {α : Type} (x : Except Failure α) (P : Json → String → Prop) : Prop :=
  ∀ item subject, x = .error (.rejected (.notFound item subject)) → P item subject

namespace Outcome
variable {α β : Type} {P : Json → String → Prop}

@[simp] theorem reportsOnly_pure (a : α) : ReportsOnly (pure a) P := by
  simp [ReportsOnly, pure, Except.pure]

theorem ReportsOnly.bind {x : Except Failure α} (hx : ReportsOnly x P)
    {f : α → Except Failure β} (hf : ∀ a, x = .ok a → ReportsOnly (f a) P) :
    ReportsOnly (x >>= f) P := by
  intro item subject h
  cases x with
  | error e => exact hx item subject (by simpa using h)
  | ok a => exact hf a rfl item subject h

theorem ReportsOnly.of_broken {x : Except Failure α} {cause : Breakdown}
    (h : FailsOnly x (· = .broken cause)) : ReportsOnly x P := by
  intro item subject hx
  cases h _ hx

end Outcome

open Outcome

/-- A text without a UTF-8 form stands somewhere in the value. -/
inductive Json.HoldsUnpaired : Json → Prop
  | text {before : String} {half : Surrogate} {after : RawText} :
      HoldsUnpaired (.unpaired before half after)
  | item {items : List Json} {v : Json} (mem : v ∈ items) (held : HoldsUnpaired v) :
      HoldsUnpaired (.arr items)
  | name {entries : Json.Object} {e : RawText × Json} (mem : e ∈ entries)
      (held : e.1.utf8? = none) : HoldsUnpaired (.obj entries)
  | value {entries : Json.Object} {e : RawText × Json} (mem : e ∈ entries)
      (held : HoldsUnpaired e.2) : HoldsUnpaired (.obj entries)

theorem Entries.mem_of_get? {κ α : Type} [DecidableEq κ] {entries : List (κ × α)} {name : κ} {a : α}
    (h : get? entries name = some a) : (name, a) ∈ entries := by
  induction entries with
  | nil => cases h
  | cons e rest ih =>
    rw [get?] at h
    split at h
    · rename_i hname
      cases h
      exact hname ▸ List.mem_cons_self
    · exact List.mem_cons_of_mem e (ih h)

theorem Json.HoldsUnpaired.of_get {entries : Json.Object} {name : String}
    (h : (Json.Object.get entries name).HoldsUnpaired) : (Json.obj entries).HoldsUnpaired := by
  unfold Json.Object.get at h
  cases hvalue : Entries.get? entries (RawText.text name) with
  | none =>
    rw [hvalue] at h
    cases h
  | some v =>
    rw [hvalue] at h
    exact .value (Entries.mem_of_get? hvalue) h

theorem RawText.utf8?_of_encode {t : RawText} {e : Failure} (h : t.encode = .error e) :
    e = .broken .notEncodable ∧ t.utf8? = none := by
  cases t <;> cases h
  exact ⟨rfl, rfl⟩

theorem Json.holdsUnpaired_of_text? {v : Json} {t : RawText} (h : v.text? = some t)
    (ht : t.utf8? = none) : v.HoldsUnpaired := by
  cases v with
  | str s =>
    cases h
    cases ht
  | unpaired => exact .text
  | null | bool | num | arr | obj => cases h

namespace Fields
variable {α : Type} {P : Failure → Prop} (body : Json.Object)

theorem ifPresent_fails {check : Json → Except Failure α} (field : String)
    (h : ∀ v, Entries.get? body (RawText.text field) = some v → FailsOnly (check v) P) :
    FailsOnly (ifPresent body field check) P := by
  unfold ifPresent
  split
  · exact (h _ ‹_›).map some
  · exact failsOnly_ok none

theorem checkKnown_fails (h : ∀ field, P (.rejected (.unknownField field)))
    (allowed : List RawText) : FailsOnly (checkKnown allowed body) P := by
  unfold checkKnown
  split
  · exact failsOnly_reject.mpr (h _)
  · exact failsOnly_ok _

end Fields

namespace Body

/-- What a body may be about that the store does not have, with the word for it. -/
inductive Missing (s : Store) : Json → String → Prop
  | grantee {username : String} (h : ¬ s.hasUser username) :
      Missing s (.str username) "user (permissions)"
  | node {item : Json} {id : String} (hid : Identifier.parse (some "contents") item = .ok id)
      (h : ¬ s.hasNode id) : Missing s item "node_id"
  | owner {item : Json} (h : ∀ username : String, item = .str username → ¬ s.hasUser username) :
      Missing s item "user"

theorem Missing.of_node {s : Store} {item : Json} (h : Missing s item "node_id") :
    ∃ id, Identifier.parse (some "contents") item = .ok id ∧ ¬ s.hasNode id := by
  generalize hsubject : "node_id" = subject at h
  cases h with
  | grantee => exact absurd hsubject (by decide)
  | node hid hnode => exact ⟨_, hid, hnode⟩
  | owner => exact absurd hsubject (by decide)

/-- A failure of the check of a value: a rejection, and what it reports as missing is missing, or
the value holds a text without a UTF-8 form. -/
def Refusal (s : Store) (v : Json) : Failure → Prop
  | .rejected (.notFound item subject) => Missing s item subject
  | .rejected _ => True
  | .broken cause => cause = .notEncodable ∧ v.HoldsUnpaired

theorem Refusal.reportsOnly {α : Type} {s : Store} {v : Json} {x : Except Failure α}
    (h : FailsOnly x (Refusal s v)) : ReportsOnly x (Missing s) :=
  fun _ _ he => h _ he

theorem Refusal.mono {s : Store} {v w : Json} (h : v.HoldsUnpaired → w.HoldsUnpaired) :
    ∀ e : Failure, Refusal s v e → Refusal s w e
  | .rejected (.notFound ..), he => he
  | .rejected _, he => by unfold Refusal at *; split at he <;> simp_all
  | .broken _, he => ⟨he.1, h he.2⟩

variable (limits : Settings) (s : Store)

/-! ## Checks that ask nothing of the store -/

/-- A check that only compares with limits. -/
theorem boundedText_refuses (field : String) (least most : Int) (v : Json) :
    FailsOnly (boundedText field least most v) (Refusal s v) := by
  unfold boundedText
  split
  · split <;> simp [Refusal]
  · simp [Refusal]

theorem checkName_refuses (v : Json) : FailsOnly (checkName limits v) (Refusal s v) :=
  boundedText_refuses s "name" 1 limits.maxNameLength v

theorem encode_refuses {v : Json} {t : RawText} (h : v.text? = some t) :
    FailsOnly t.encode (Refusal s v) := by
  intro e he
  obtain ⟨rfl, ht⟩ := RawText.utf8?_of_encode he
  exact ⟨rfl, Json.holdsUnpaired_of_text? h ht⟩

theorem checkText_refuses (v : Json) : FailsOnly (checkText limits v) (Refusal s v) := by
  unfold checkText
  dsimp only
  split
  · rename_i t ht
    refine (encode_refuses s ht).bind fun text _ => ?_
    split <;> simp [Refusal]
  · simp [Refusal]

theorem checkTags_refuses (v : Json) : FailsOnly (checkTags limits v) (Refusal s v) := by
  unfold checkTags
  split
  · split
    · simp [Refusal]
    · exact FailsOnly.mapM fun tag htag =>
        (boundedText_refuses s _ _ _ tag).mono (Refusal.mono (.item htag))
  · simp [Refusal]

theorem checkLockUser_refuses (v w : Json) : FailsOnly (checkLockUser limits v) (Refusal s w) := by
  unfold checkLockUser
  split
  · split <;> simp [Refusal]
  · simp [Refusal]

theorem checkLockTime_refuses (v w : Json) : FailsOnly (checkLockTime v) (Refusal s w) := by
  unfold checkLockTime
  split
  · split <;> simp [Refusal]
  · simp [Refusal]

theorem checkLock_refuses (v : Json) : FailsOnly (checkLock limits v) (Refusal s v) := by
  unfold checkLock
  split
  · simp
  · refine (checkLockUser_refuses limits s _ _).bind fun _ _ => ?_
    refine (((boundedText_refuses s _ _ _ _).mono (Refusal.mono .of_get)).map _).bind fun _ _ => ?_
    refine (checkLockTime_refuses s _ _).bind fun _ _ => ?_
    split <;> simp [Refusal]
  · simp [Refusal]

theorem checkGrant_refuses (isFile : Bool) (grantee : RawText) (v w : Json) :
    FailsOnly (checkGrant isFile grantee v) (Refusal s w) := by
  unfold checkGrant
  split
  · split
    · simp [Refusal]
    · split <;> simp [Refusal]
  · simp [Refusal]

theorem checkKind_refuses (v w : Json) : FailsOnly (checkKind v) (Refusal s w) := by
  unfold checkKind
  split
  · split <;> simp [Refusal]
  · simp [Refusal]

theorem parse_refuses (field : Option String) (v w : Json) :
    FailsOnly (Identifier.parse field v) (Refusal s w) := by
  unfold Identifier.parse
  split
  · split <;> simp [Refusal]
  · simp [Refusal]

/-! ## Checks that look into the store -/

theorem encodeGrant_refuses {isFile : Bool} {entries : Json.Object}
    {given : List (RawText × String)}
    (h : List.Forall₂ (fun e g => checkGrant isFile e.1 e.2 = .ok g) entries given)
    {g : RawText × String} (hg : g ∈ given) :
    FailsOnly (encodeGrant g) (Refusal s (.obj entries)) := by
  refine FailsOnly.bind (fun e he => ?_) fun _ _ => failsOnly_pure _
  obtain ⟨rfl, hnone⟩ := RawText.utf8?_of_encode he
  obtain ⟨entry, hentry, hchecked⟩ := exists_mem_of_forall₂ h hg
  obtain ⟨_, _, _, _, rfl⟩ := checkGrant_eq_ok.mp hchecked
  exact ⟨rfl, .name hentry hnone⟩

theorem checkPermissions_refuses (isFile : Bool) (v : Json) :
    FailsOnly (checkPermissions limits s isFile v) (Refusal s v) := by
  unfold checkPermissions
  split
  · refine (FailsOnly.mapM fun e _ => checkGrant_refuses s isFile _ _ _).bind fun given hgiven => ?_
    split
    · simp [Refusal]
    · refine (FailsOnly.mapM fun g hg => encodeGrant_refuses s (mapM_eq_ok.mp hgiven) hg).bind
        fun grants _ => ?_
      dsimp only
      split
      · rename_i username hu
        have hunknown : ¬ s.hasUser username := by simpa using List.find?_some hu
        exact failsOnly_reject.mpr (Missing.grantee hunknown)
      · exact failsOnly_pure grants
  · simp [Refusal]

theorem firstMissing?_spec {items : List Json} {ids : List String} {item : Json}
    (hparsed : List.Forall₂ (fun item id => Identifier.parse (some "contents") item = .ok id) items
      ids)
    (h : firstMissing? s items ids = some item) :
    ∃ id, Identifier.parse (some "contents") item = .ok id ∧ ¬ s.hasNode id := by
  induction hparsed with
  | nil => simp [firstMissing?] at h
  | @cons first id items ids hid _ ih =>
    by_cases hnode : s.hasNode id
    · exact ih (by simpa [firstMissing?, hnode] using h)
    · have hitem : first = item := by simpa [firstMissing?, hnode] using h
      exact ⟨id, hitem ▸ hid, hnode⟩

theorem checkContents_refuses (kind : String) (v : Json) :
    FailsOnly (checkContents limits s kind v) (Refusal s v) := by
  cases v with
  | arr items =>
    rw [checkContents_arr]
    split
    · simp [Refusal]
    · refine (FailsOnly.mapM fun v _ => parse_refuses s _ v _).bind fun ids hparsed => ?_
      split
      · rename_i item hmissing
        obtain ⟨id, hid, hnode⟩ := firstMissing?_spec s (mapM_eq_ok.mp hparsed) hmissing
        exact failsOnly_reject.mpr (Missing.node hid hnode)
      · exact failsOnly_pure _
  | _ => simp [checkContents, Refusal]

theorem checkOwner_refuses (v : Json) : FailsOnly (checkOwner s v) (Refusal s v) := by
  unfold checkOwner
  split
  · rename_i t ht
    refine (encode_refuses s ht).bind fun username hu => ?_
    split
    · exact failsOnly_pure _
    · rename_i hunknown
      refine failsOnly_reject.mpr (Missing.owner ?_)
      rintro name rfl
      obtain rfl := RawText.encode_eq_ok.mp hu
      cases ht
      exact hunknown
  · rename_i hv
    refine failsOnly_reject.mpr (Missing.owner ?_)
    rintro name rfl
    cases hv

/-! ## Bodies -/

section Body
variable (body : Json.Object)

theorem checkKnown_refuses (allowed : List RawText) :
    FailsOnly (Fields.checkKnown allowed body) (Refusal s (.obj body)) :=
  Fields.checkKnown_fails body (fun _ => trivial) allowed

/-- The check of a field of a body that has to hold it. -/
theorem get_refuses {α : Type} {check : Json → Except Failure α}
    (h : ∀ v, FailsOnly (check v) (Refusal s v)) (field : String) :
    FailsOnly (check (Json.Object.get body field)) (Refusal s (.obj body)) :=
  (h _).mono (Refusal.mono .of_get)

/-- The check of a field of a body that may hold it. -/
theorem ifPresent_refuses {α : Type} {check : Json → Except Failure α}
    (h : ∀ v, FailsOnly (check v) (Refusal s v)) (field : String) :
    FailsOnly (Fields.ifPresent body field check) (Refusal s (.obj body)) :=
  Fields.ifPresent_fails body field fun v hv =>
    (h v).mono (Refusal.mono (.value (Entries.mem_of_get? hv)))

theorem checkNewFile_refuses : FailsOnly (checkNewFile limits s body) (Refusal s (.obj body)) := by
  refine (get_refuses s body (checkName_refuses limits s) _).bind fun _ _ => ?_
  refine (get_refuses s body (checkPermissions_refuses limits s true) _).bind fun _ _ => ?_
  refine (get_refuses s body (checkText_refuses limits s) _).bind fun _ _ => ?_
  refine (get_refuses s body (checkTags_refuses limits s) _).bind fun _ _ => ?_
  refine (get_refuses s body (checkLock_refuses limits s) _).bind fun _ _ => ?_
  exact (checkKnown_refuses s body _).bind fun _ _ => failsOnly_pure _

theorem checkNewMeta_refuses (kind : String) :
    FailsOnly (checkNewMeta limits s kind body) (Refusal s (.obj body)) := by
  refine (get_refuses s body (checkName_refuses limits s) _).bind fun _ _ => ?_
  refine (get_refuses s body (checkPermissions_refuses limits s false) _).bind fun _ _ => ?_
  refine (get_refuses s body (checkContents_refuses limits s kind) _).bind fun _ _ => ?_
  exact (checkKnown_refuses s body _).bind fun _ _ => failsOnly_pure _

theorem checkFilePatch_refuses :
    FailsOnly (checkFilePatch limits s body) (Refusal s (.obj body)) := by
  refine (ifPresent_refuses s body (checkName_refuses limits s) _).bind fun _ _ => ?_
  refine (ifPresent_refuses s body (checkPermissions_refuses limits s true) _).bind fun _ _ => ?_
  refine (ifPresent_refuses s body (checkText_refuses limits s) _).bind fun _ _ => ?_
  refine (ifPresent_refuses s body (checkTags_refuses limits s) _).bind fun _ _ => ?_
  refine (ifPresent_refuses s body (checkLock_refuses limits s) _).bind fun _ _ => ?_
  refine (ifPresent_refuses s body (checkOwner_refuses s) _).bind fun _ _ => ?_
  exact (checkKnown_refuses s body _).bind fun _ _ => failsOnly_pure _

theorem checkMetaPatch_refuses (kind : String) :
    FailsOnly (checkMetaPatch limits s kind body) (Refusal s (.obj body)) := by
  refine (ifPresent_refuses s body (checkName_refuses limits s) _).bind fun _ _ => ?_
  refine (ifPresent_refuses s body (checkPermissions_refuses limits s false) _).bind fun _ _ => ?_
  refine (ifPresent_refuses s body (checkContents_refuses limits s kind) _).bind fun _ _ => ?_
  refine (ifPresent_refuses s body (checkOwner_refuses s) _).bind fun _ _ => ?_
  exact (checkKnown_refuses s body _).bind fun _ _ => failsOnly_pure _

end Body

theorem checkNew_refuses (v : Json) : FailsOnly (checkNew limits s v) (Refusal s v) := by
  unfold checkNew
  split
  · rename_i body
    refine (checkKind_refuses s _ _).bind fun kind _ => ?_
    split
    · exact checkNewFile_refuses limits s body
    · exact checkNewMeta_refuses limits s body kind
  · simp [Refusal]

theorem checkPatch_refuses (kind : String) (v : Json) :
    FailsOnly (checkPatch limits s kind v) (Refusal s v) := by
  unfold checkPatch
  split
  · split
    · exact checkFilePatch_refuses limits s _
    · exact checkMetaPatch_refuses limits s _ kind
  · simp [Refusal]

theorem checkPatch_reports (kind : String) (v : Json) :
    ReportsOnly (checkPatch limits s kind v) (Missing s) :=
  Refusal.reportsOnly (checkPatch_refuses limits s kind v)

end Body
end FileShare

import FileShare.Proofs.AcceptedFields
import FileShare.Proofs.Missing
import FileShare.Proofs.Runs.Calls
import FileShare.Proofs.Runs.Identity
import FileShare.Proofs.Search.Lookups
import FileShare.Proofs.Search.Requests

/-! # How calls fail

Whatever a client sends, a call is answered or rejected. It breaks down only over a text without a
UTF-8 form, in the body of a node or in a key. A write that fails has written nothing, with one
exception: a new node is read back after it was stored, and that reading may be rejected. Searches
are left out here, because a matcher can break one down in other ways.
-/
namespace FileShare

open Outcome

/-- The drive refuses the request, or it meets a text without a UTF-8 form where one can stand. -/
abbrev Failure.RejectsOr (unpaired : Prop) : Failure → Prop :=
  BreaksBy fun cause => cause = .notEncodable ∧ unpaired

theorem Body.Refusal.rejectsOr {s : Store} {v : Json} :
    ∀ e : Failure, Refusal s v e → e.RejectsOr v.HoldsUnpaired
  | .rejected _, _ => trivial
  | .broken _, h => h

theorem Outcome.FailsOnly.answered_or_rejected {α : Type} {x : Except Failure α} {unpaired : Prop}
    (h : FailsOnly x (Failure.RejectsOr unpaired)) :
    (∃ a, x = .ok a) ∨ (∃ cause, x = .error (.rejected cause)) ∨
      x = breakDown .notEncodable ∧ unpaired := by
  cases x with
  | ok a => exact .inl ⟨a, rfl⟩
  | error e =>
    cases e with
    | rejected cause => exact .inr (.inl ⟨cause, rfl⟩)
    | broken cause =>
      obtain ⟨rfl, hunpaired⟩ := h (.broken cause) rfl
      exact .inr (.inr ⟨rfl, hunpaired⟩)

/-! ## Bodies that cannot be stored -/

namespace Body
variable {limits : Settings} {s : Store} {v : Json}

theorem text_of_checkName {name : RawText} (h : checkName limits v = .ok name)
    (hv : ¬ v.HoldsUnpaired) : ∃ text : String, name = .text text := by
  obtain ⟨rfl, _⟩ := boundedText_eq_ok.mp h
  exact RawText.exists_text fun hnone =>
    hv (Json.holdsUnpaired_of_text? (Json.text?_ofText name) hnone)

theorem texts_of_checkTags {tags : List RawText} (h : checkTags limits v = .ok tags)
    (hv : ¬ v.HoldsUnpaired) : ∃ texts : List String, tags = texts.map .text := by
  obtain ⟨rfl, _⟩ := checkTags_eq_ok.mp h
  refine RawText.exists_texts fun tag htag hnone => hv (.item (List.mem_map_of_mem htag) ?_)
  exact Json.holdsUnpaired_of_text? (Json.text?_ofText tag) hnone

theorem holdsUnpaired_of_checkNew {fields : NewNode RawText} (h : checkNew limits s v = .ok fields)
    (hunfit : ∀ row : NewNode String, fields ≠ row.raw) : v.HoldsUnpaired := by
  by_contra hv
  cases v with
  | obj body =>
    have hheld : ∀ field : String, ¬ (Json.Object.get body field).HoldsUnpaired :=
      fun field hfield => hv (.of_get hfield)
    obtain ⟨kind, _, h⟩ := bind_eq_ok.mp h
    split at h
    · simp only [checkNewFile, bind_eq_ok, pure_eq_ok] at h
      obtain ⟨name, hname, grants, _, text, _, tags, htags, lock, _, _, _, rfl⟩ := h
      obtain ⟨name, rfl⟩ := text_of_checkName hname (hheld "name")
      obtain ⟨tags, rfl⟩ := texts_of_checkTags htags (hheld "tags")
      exact hunfit (.file name text tags lock grants) rfl
    · simp only [checkNewMeta, bind_eq_ok, pure_eq_ok] at h
      obtain ⟨name, hname, grants, _, contents, _, _, _, rfl⟩ := h
      obtain ⟨name, rfl⟩ := text_of_checkName hname (hheld "name")
      exact hunfit (.metaNode kind name contents grants) rfl
  | _ => simp [checkNew] at h

section Patches
variable {body : Json.Object} (hv : ¬ (Json.obj body).HoldsUnpaired)
include hv

theorem ifPresent_text {α β : Type} {spell : α → β} {check : Json → Except Failure β}
    {field : String} {o : Option β} (h : Fields.ifPresent body field check = .ok o)
    (hcheck : ∀ {w b}, check w = .ok b → ¬ w.HoldsUnpaired → ∃ a, b = spell a) :
    ∃ o' : Option α, o = o'.map spell := by
  cases o with
  | none => exact ⟨none, rfl⟩
  | some b =>
    obtain ⟨w, hw, hb⟩ := Fields.ifPresent_eq_some.mp h
    obtain ⟨a, rfl⟩ := hcheck hb fun hheld => hv (.value (Entries.mem_of_get? hw) hheld)
    exact ⟨some a, rfl⟩

theorem exists_raw_of_checkPatch {kind : String} {patch : Patch RawText}
    (h : checkPatch limits s kind (.obj body) = .ok patch) :
    ∃ written : Patch String, patch = written.raw := by
  rw [checkPatch] at h
  split at h
  · simp only [checkFilePatch, bind_eq_ok, pure_eq_ok] at h
    obtain ⟨name, hname, grants, _, text, _, tags, htags, lock, _, owner, _, _, _, rfl⟩ := h
    obtain ⟨name, rfl⟩ := ifPresent_text hv hname text_of_checkName
    obtain ⟨tags, rfl⟩ := ifPresent_text hv htags texts_of_checkTags
    exact ⟨{ name, permissions := grants, text, tags, lock, owner }, rfl⟩
  · simp only [checkMetaPatch, bind_eq_ok, pure_eq_ok] at h
    obtain ⟨name, hname, grants, _, contents, _, owner, _, _, _, rfl⟩ := h
    obtain ⟨name, rfl⟩ := ifPresent_text hv hname text_of_checkName
    exact ⟨{ name, permissions := grants, contents, owner }, rfl⟩

end Patches

theorem encode_fails_of_checkPatch {kind : String} {patch : Patch RawText}
    (h : checkPatch limits s kind v = .ok patch) :
    FailsOnly patch.encode (Failure.RejectsOr v.HoldsUnpaired) := by
  intro e he
  obtain rfl := patch.encode_fails e he
  refine ⟨rfl, ?_⟩
  by_contra hv
  cases v with
  | obj body =>
    obtain ⟨written, rfl⟩ := exists_raw_of_checkPatch hv h
    rw [Patch.encode_eq_ok.mpr rfl] at he
    cases he
  | _ => simp [checkPatch] at h

end Body

namespace Identifier
variable (field : Option String)

theorem parse_fails (v : Json) : FailsOnly (parse field v) Failure.IsRejection := by
  unfold parse
  split
  · split <;> simp [Failure.IsRejection]
  · simp [Failure.IsRejection]

theorem parseOptional_fails (v : Json) : FailsOnly (parseOptional field v) Failure.IsRejection := by
  unfold parseOptional
  split
  · simp
  · simp
  · exact (parse_fails field _).map some

/-- Texts can be told apart in a set, whatever they say. -/
theorem parseAll_fails (texts : List RawText) :
    FailsOnly (parseAll field (texts.map .ofText)) Failure.IsRejection := by
  rw [parseAll_eq]
  refine (FailsOnly.forM fun v hv => ?_).bind fun _ _ => ?_
  · obtain ⟨text, _, rfl⟩ := List.mem_map.mp hv
    cases text <;> simp [checkHashable, Json.ofText]
  · exact (FailsOnly.mapM fun v _ => parse_fails field v).bind fun _ _ => failsOnly_pure _

theorem length_le_of_parseAll {values : List Json} {ids : List String}
    (h : parseAll field values = .ok ids) : ids.length ≤ values.length := by
  obtain ⟨texts, rfl, _, rfl⟩ := parseAll_eq_ok.mp h
  have hle := length_eraseDups_le (texts.map Text.lower)
  rwa [List.length_map] at hle ⊢

end Identifier

/-! ## Accounts -/

theorem Store.hasUserId_of_clash {s : Store} {u : User} (h : s.addUser u = .error .identifier) :
    s.hasUserId u.id := by
  obtain ⟨v, hv, hid⟩ := exists_meets_of_addUser h
  exact List.any_eq_true.mpr ⟨v, hv, decide_eq_true hid⟩

namespace Accounts
variable (limits : Settings) (s : Store)

theorem checkEmail_fails (v : Json) : FailsOnly (checkEmail limits v) Failure.IsRejection := by
  unfold checkEmail
  split
  · split <;> simp [Failure.IsRejection]
  · simp [Failure.IsRejection]

theorem checkHex_fails (field : String) (length : Int) (v : Json) :
    FailsOnly (checkHex field length v) Failure.IsRejection := by
  unfold checkHex
  split
  · split <;> simp [Failure.IsRejection]
  · simp [Failure.IsRejection]

theorem checkUsername_fails (v : Json) :
    FailsOnly (checkUsername limits v) Failure.IsRejection := by
  unfold checkUsername
  split
  · split
    · simp [Failure.IsRejection]
    · split <;> simp [Failure.IsRejection]
  · simp [Failure.IsRejection]

theorem checkNew_fails (v : Json) : FailsOnly (checkNew limits v) Failure.IsRejection := by
  unfold checkNew
  split
  · refine (checkEmail_fails limits _).bind fun _ _ => ?_
    refine (checkHex_fails _ _ _).bind fun _ _ => ?_
    refine (checkHex_fails _ _ _).bind fun _ _ => ?_
    refine (checkUsername_fails limits _).bind fun _ _ => ?_
    refine (Fields.checkKnown_fails _ (fun _ => trivial) _).bind fun _ _ => ?_
    exact failsOnly_pure _
  · simp [Failure.IsRejection]

theorem checkPatch_fails (v : Json) : FailsOnly (checkPatch limits v) Failure.IsRejection := by
  unfold checkPatch
  split
  · refine (Fields.ifPresent_fails _ _ fun v _ => checkEmail_fails limits v).bind fun _ _ => ?_
    refine (Fields.ifPresent_fails _ _ fun v _ => checkHex_fails _ _ v).bind fun _ _ => ?_
    refine (Fields.ifPresent_fails _ _ fun v _ => checkHex_fails _ _ v).bind fun _ _ => ?_
    refine (Fields.checkKnown_fails _ (fun _ => trivial) _).bind fun _ _ => ?_
    exact failsOnly_pure _
  · simp [Failure.IsRejection]

theorem require_fails (username : String) :
    FailsOnly (require s username) Failure.IsRejection := by
  unfold require
  split <;> simp [Failure.IsRejection]

theorem list_fails (h : Store.fitsInteger limits.resultsPerPage) (after : Json) :
    FailsOnly (list limits after s) Failure.IsRejection := by
  have hsize : Store.fitsInteger (pageSize limits) := by
    rw [Store.fitsInteger_iff] at h ⊢
    unfold pageSize
    omega
  refine (Identifier.parseOptional_fails _ after).bind fun cursor _ => ?_
  simp only [hsize, Bool.not_true, Bool.false_eq_true, ↓reduceIte]
  split <;> simp [Failure.IsRejection]

theorem create_fails {now : Instant} {w : World}
    (h : w.store.hasUserId (w.generator.draw now).1 = false) (body : Json) :
    FailsOnly (create limits now body w).1 Failure.IsRejection := by
  unfold create
  split
  · rename_i e he
    exact failsOnly_error.mpr (checkNew_fails limits body e he)
  · rename_i fields _
    dsimp only
    split
    · rename_i clash hadd
      refine failsOnly_error.mpr ?_
      cases clash with
      | email => trivial
      | username => trivial
      | identifier => exact absurd (Store.hasUserId_of_clash hadd) (by simp [User.ofFields, h])
    · exact failsOnly_ok _

theorem update_fails (username : String) (body : Json) :
    FailsOnly (update limits username body s) Failure.IsRejection := by
  unfold update
  split
  · simp
  · refine (checkPatch_fails limits body).bind fun patch _ => ?_
    refine (require_fails s username).bind fun u _ => ?_
    unfold Store.replaceUser
    split <;> simp [Except.mapError, clashFailure, Failure.IsRejection]

theorem delete_fails (username : String) :
    FailsOnly (delete username s) Failure.IsRejection :=
  (require_fails s username).bind fun _ _ => failsOnly_pure _

theorem authenticate_fails (username : String) (key : Json) :
    FailsOnly (authenticate s username key) (Failure.RejectsOr key.HoldsUnpaired) := by
  unfold authenticate
  split
  · exact failsOnly_ok _
  · exact failsOnly_ok _
  · rename_i given _ hgiven
    split
    · exact failsOnly_ok _
    · refine FailsOnly.bind (fun e he => ?_) fun _ _ => failsOnly_pure _
      obtain ⟨rfl, hnone⟩ := RawText.utf8?_of_encode he
      refine ⟨rfl, Json.holdsUnpaired_of_text? hgiven ?_⟩
      cases given with
      | text => cases hnone
      | unpaired => rfl

end Accounts

/-! ## Nodes -/

namespace Nodes
variable (limits : Settings) (s : Store) (username : String)

theorem checkBatch_fails (ids : List Json) :
    FailsOnly (checkBatch limits ids) Failure.IsRejection := by
  unfold checkBatch
  split <;> simp [Failure.IsRejection]

theorem discard_require_fails :
    FailsOnly (discard (Accounts.require s username)) Failure.IsRejection :=
  (Accounts.require_fails s username).map _

theorem get_fails (texts : List RawText) (h : texts.length < 2 ^ 63) :
    FailsOnly (get limits username (texts.map .ofText) s) Failure.IsRejection := by
  refine (checkBatch_fails limits _).bind fun _ _ => ?_
  refine (discard_require_fails s username).bind fun _ _ => ?_
  refine (Identifier.parseAll_fails _ texts).bind fun wanted hwanted => ?_
  have hlength := Identifier.length_le_of_parseAll _ hwanted
  rw [List.length_map] at hlength
  have hfault := Query.idPlan_fault? (lt_of_le_of_lt hlength h) username
  obtain ⟨found, hfound⟩ := Query.exists_fetch (Query.idPlan_answers wanted username) hfault s
  rw [hfound, ok_bind]
  split <;> simp [Failure.IsRejection]

theorem create_fails {now : Instant} {w : World}
    (h : w.store.hasNode (w.generator.draw now).1 = false) (body : Json) :
    FailsOnly (create limits now username body w).1 (Failure.RejectsOr body.HoldsUnpaired) := by
  unfold create
  dsimp only
  split
  · rename_i e he
    refine failsOnly_error.mpr ?_
    have hchecked := (Body.checkNew_refuses limits w.store body).mono fun _ =>
      Body.Refusal.rejectsOr _
    refine (hchecked.bind fun _ _ => ?_) e he
    exact ((discard_require_fails w.store username).mono Failure.BreaksBy.of_isRejection).bind
      fun _ _ => failsOnly_pure _
  · rename_i fields hfields
    obtain ⟨_, hfields, hknown⟩ := bind_eq_ok.mp hfields
    obtain ⟨_, _, hknown⟩ := bind_eq_ok.mp hknown
    cases hknown
    split
    · rename_i e hinsert
      refine failsOnly_error.mpr ?_
      rcases insert_fails _ _ _ _ _ e hinsert with ⟨_, htaken⟩ | ⟨rfl, hunfit⟩
      · rw [h] at htaken
        cases htaken
      · exact ⟨rfl, Body.holdsUnpaired_of_checkNew hfields hunfit⟩
    · rename_i store _
      have hget := get_fails limits store username [.text (w.generator.draw now).1] (by simp)
      split
      · rename_i e he
        exact failsOnly_error.mpr (Failure.BreaksBy.of_isRejection e (hget e he))
      · simp [Failure.RejectsOr]
      · exact failsOnly_ok _

theorem update_fails (now : Instant) (id body : Json) :
    FailsOnly (update limits now username id body s) (Failure.RejectsOr body.HoldsUnpaired) := by
  refine ((Identifier.parse_fails _ id).mono Failure.BreaksBy.of_isRejection).bind
    fun target _ => ?_
  split
  · simp
  · refine ((discard_require_fails s username).mono Failure.BreaksBy.of_isRejection).bind
      fun _ _ => ?_
    obtain ⟨found, hfound⟩ :=
      Query.exists_fetch (Query.editPlan_answers target username) rfl s
    rw [hfound, ok_bind]
    split
    · simp
    · rename_i n _
      have hpatch := (Body.checkPatch_refuses limits s n.kind body).mono fun _ =>
        Body.Refusal.rejectsOr _
      exact hpatch.bind fun _ hchecked =>
        (Body.encode_fails_of_checkPatch hchecked).bind fun _ _ => failsOnly_pure _

theorem delete_fails (texts : List RawText) :
    FailsOnly (delete limits username (texts.map .ofText) s) Failure.IsRejection := by
  refine (checkBatch_fails limits _).bind fun _ _ => ?_
  refine (Identifier.parseAll_fails _ texts).bind fun _ _ => ?_
  exact (discard_require_fails s username).bind fun _ _ => failsOnly_pure _

end Nodes

/-! ## Calls -/

namespace Operation

def reads : Operation → Bool
  | listUsers _ | getUser _ | authenticate .. | getNodes .. | searchNodes .. => true
  | _ => false

/-- Where the operation names nodes by a list, it is one of texts, and of a length that a list can
have. -/
def NamesTexts : Operation → Prop
  | getNodes _ ids | deleteNodes _ ids =>
    ∃ texts : List RawText, ids = texts.map .ofText ∧ texts.length < 2 ^ 63
  | _ => True

/-- The body of a node or the key that the operation brings holds a text without a UTF-8 form. -/
def BringsUnpaired : Operation → Prop
  | createNode _ body | updateNode _ _ body => body.HoldsUnpaired
  | authenticate _ key => key.HoldsUnpaired
  | _ => False

theorem writing_fails {P : Failure → Prop} {result : Except Failure Store}
    (h : FailsOnly result P) (w : World) : FailsOnly (writing w result).1 P := by
  cases result with
  | ok t => exact failsOnly_ok _
  | error e => exact failsOnly_error.mpr (failsOnly_error.mp h)

theorem store_writing_of_error {w : World} {result : Except Failure Store} {e : Failure}
    (h : (writing w result).1 = .error e) : (writing w result).2.store = w.store := by
  cases result with
  | ok t => cases h
  | error e => rfl

end Operation

theorem Accounts.store_create_of_error {limits : Settings} {now : Instant} {body : Json}
    {w : World} {e : Failure} (h : (create limits now body w).1 = .error e) :
    (create limits now body w).2.store = w.store := by
  unfold create at h ⊢
  split at h
  · rfl
  · dsimp only at h ⊢
    split at h
    · rfl
    · cases h

namespace Call
variable {c : Call} {s : Store}

/-- A call that is not a search is answered or rejected, unless it brings a text without a UTF-8
form. -/
theorem result_fails (hfresh : c.Fresh s) (hpage : Store.fitsInteger c.limits.resultsPerPage)
    (hnames : c.operation.NamesTexts)
    (hother : ∀ username after equality patterns,
      c.operation ≠ .searchNodes username after equality patterns) :
    FailsOnly (c.result s) (Failure.RejectsOr c.operation.BringsUnpaired) := by
  simp only [result, run]
  cases h : c.operation with
  | listUsers after =>
    exact ((Accounts.list_fails c.limits s hpage after).map _).mono Failure.BreaksBy.of_isRejection
  | getUser username =>
    have hget := (Accounts.require_fails s username).bind fun u _ => failsOnly_pure u.toPublic
    exact (hget.map _).mono Failure.BreaksBy.of_isRejection
  | createUser body =>
    have hunused : s.hasUserId c.drawn = false := by simpa [Fresh, h] using hfresh
    exact ((Accounts.create_fails c.limits hunused body).map _).mono Failure.BreaksBy.of_isRejection
  | updateUser username body =>
    have hupdate := Accounts.update_fails c.limits s username body
    exact (Operation.writing_fails hupdate _).mono Failure.BreaksBy.of_isRejection
  | deleteUser username =>
    have hdelete := Accounts.delete_fails s username
    exact (Operation.writing_fails hdelete _).mono Failure.BreaksBy.of_isRejection
  | authenticate username key => exact (Accounts.authenticate_fails s username key).map _
  | getNodes username ids =>
    rw [h] at hnames
    obtain ⟨texts, rfl, hlength⟩ := hnames
    exact ((Nodes.get_fails c.limits s username _ hlength).map _).mono
      Failure.BreaksBy.of_isRejection
  | searchNodes username after equality patterns => exact absurd h (hother _ _ _ _)
  | createNode username body =>
    have hunused : s.hasNode c.drawn = false := by simpa [Fresh, h] using hfresh
    exact (Nodes.create_fails c.limits username hunused body).map _
  | updateNode username id body =>
    exact Operation.writing_fails (Nodes.update_fails c.limits s username c.now id body) _
  | deleteNodes username ids =>
    rw [h] at hnames
    obtain ⟨texts, rfl, _⟩ := hnames
    have hdelete := Nodes.delete_fails c.limits s username texts
    exact (Operation.writing_fails hdelete _).mono Failure.BreaksBy.of_isRejection

theorem after_of_reads (h : c.operation.reads) : c.after s = s := by
  simp only [after, run]
  cases hop : c.operation with
  | listUsers | getUser | authenticate | getNodes | searchNodes => rfl
  | _ => simp [hop, Operation.reads] at h

theorem after_of_error {e : Failure} (h : c.result s = .error e)
    (hother : ∀ username body, c.operation ≠ .createNode username body) : c.after s = s := by
  simp only [result, after, run] at h ⊢
  cases hop : c.operation with
  | listUsers | getUser | authenticate | getNodes | searchNodes => rfl
  | createUser body =>
    rw [hop] at h
    cases hmade : (Accounts.create c.limits c.now body ⟨s, c.generator⟩).1 with
    | ok u => simp [Operation.run, hmade, Except.map] at h
    | error _ => exact Accounts.store_create_of_error hmade
  | createNode username body => exact absurd hop (hother username body)
  | updateUser | deleteUser | updateNode | deleteNodes =>
    rw [hop] at h
    exact Operation.store_writing_of_error h

end Call

/-- Whatever a client sends, a call that is no search is answered or rejected, but for one that
brings a text without a UTF-8 form in the body of a node or in a key: it may break down. If a call
fails, and it was not to make a node, it leaves the store as it was, and so does everything that
only reads. -/
theorem calls_answer_or_reject {c : Call} {s : Store} (hfresh : c.Fresh s)
    (hpage : Store.fitsInteger c.limits.resultsPerPage) (hnames : c.operation.NamesTexts) :
    ((∀ username after equality patterns,
        c.operation ≠ .searchNodes username after equality patterns) →
      (∃ reply, c.result s = .ok reply) ∨ (∃ cause, c.result s = .error (.rejected cause)) ∨
        c.result s = breakDown .notEncodable ∧ c.operation.BringsUnpaired) ∧
    ((∀ username body, c.operation ≠ .createNode username body) →
      ∀ e, c.result s = .error e → c.after s = s) ∧
    (c.operation.reads → c.after s = s) :=
  ⟨fun hother => (Call.result_fails hfresh hpage hnames hother).answered_or_rejected,
    fun hother _ h => Call.after_of_error h hother, Call.after_of_reads⟩

theorem calls_answer_or_reject_sample :
    (Sample.enrol 6 "anne" "Anna@mail.org").Fresh Sample.shelf ∧
      Store.fitsInteger (Sample.enrol 6 "anne" "Anna@mail.org").limits.resultsPerPage ∧
      (Sample.enrol 6 "anne" "Anna@mail.org").result Sample.shelf =
        reject (.fieldTaken "email") ∧
      (Sample.enrol 6 "anne" "Anna@mail.org").after Sample.shelf = Sample.shelf := by
  have hfresh : (Sample.enrol 6 "anne" "Anna@mail.org").Fresh Sample.shelf := by decide
  have hpage :
      Store.fitsInteger (Sample.enrol 6 "anne" "Anna@mail.org").limits.resultsPerPage := by decide
  have htaken : (Sample.enrol 6 "anne" "Anna@mail.org").result Sample.shelf =
      reject (.fieldTaken "email") := rfl
  obtain ⟨_, hfailed, _⟩ := calls_answer_or_reject hfresh hpage trivial
  exact ⟨hfresh, hpage, htaken, hfailed (by rintro _ _ ⟨⟩) _ htaken⟩

namespace Sample

def halfShared : Json := .obj [("type", .str "file"), ("name", .str "Song"), ("text", .str ""),
  ("tags", .arr []), ("lock", .null), ("permissions", .obj halfGrants)]

def misaddress : Call := call 5 (.createNode "anna" halfShared)

end Sample

/-- There are no such users, and yet the request is not rejected. -/
theorem call_breaks_on_unpaired_grantee :
    Reachable Call.Fresh Sample.shelf ∧ Sample.misaddress.Fresh Sample.shelf ∧
    Store.fitsInteger Sample.misaddress.limits.resultsPerPage ∧
    Sample.misaddress.operation.NamesTexts ∧
    Sample.misaddress.result Sample.shelf = breakDown .notEncodable :=
  ⟨Sample.shelf_reachable, by decide, by decide, trivial, rfl⟩

end FileShare

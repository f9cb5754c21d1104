import FileShare.Accounts.Conflict
import FileShare.Proofs.Runs.Failures
import Mathlib.Data.List.TakeWhile

/-! # Duplicate accounts

The store decides whether a new name or address is free, and what is known of its decision is the
report of a database. The field that is read from such a report is one in which the request really
meets another account, whatever the values say. A request that meets none is granted.
-/
namespace FileShare

/-! ## Reports of a clash -/

namespace Store.Clash

def column : Clash → String
  | .email => "email_lowercase"
  | .username => "username_lowercase"
  | .identifier => "id"

def constraint : Clash → String
  | .identifier => "pk_users"
  | clash => "uq_users_" ++ clash.column

/-- The field of a request that brings the value of the column. No request brings an identifier. -/
def field? : Clash → Option String
  | .email => some "email"
  | .username => some "username"
  | .identifier => none

theorem exists_field {clash : Clash} (h : clash ≠ .identifier) :
    ∃ field, clash.field? = some field := by
  cases clash with
  | email | username => exact ⟨_, rfl⟩
  | identifier => exact absurd rfl h

/-- A database gives the name of the constraint, with any message, or it names the column in the
first line of its message, and anything may stand in the lines below. -/
inductive Reported (clash : Clash) : Option String → String → Prop
  | named (message : String) : Reported clash (some clash.constraint) message
  | worded (details : List String) : Reported clash none
      ("UNIQUE constraint failed: users." ++ clash.column ++
        String.join (details.map fun line => "\n" ++ line))

theorem takeWhile_firstLine {cs : List Char} (h : '\n' ∉ cs) (details : List String) :
    (cs ++ (String.join (details.map fun line => "\n" ++ line)).toList).takeWhile (· ≠ '\n') =
      cs := by
  cases details with
  | nil => simpa using List.takeWhile_eq_self_iff.mpr (Email.forall_ne_of_notMem h)
  | cons line more =>
    have hbreak : (String.join ((line :: more).map fun line => "\n" ++ line)).toList =
        '\n' :: (line ++ String.join (more.map fun line => "\n" ++ line)).toList := by
      simp [String.append_assoc]
    rw [hbreak, Email.takeWhile_append_sep h]

/-- Only the column decides what field is read from a report. -/
theorem Reported.conflictField?_eq {clash : Clash} {constraint : Option String} {message : String}
    (h : clash.Reported constraint message) :
    conflictField? constraint message = clash.field? := by
  cases h with
  | named message => cases clash <;> rfl
  | worded details =>
    have hline : '\n' ∉ ("UNIQUE constraint failed: users." ++ clash.column).toList := by
      cases clash <;> decide
    have hfirst : String.ofList (("UNIQUE constraint failed: users." ++ clash.column ++
        String.join (details.map fun line => "\n" ++ line)).toList.takeWhile (· ≠ '\n')) =
        "UNIQUE constraint failed: users." ++ clash.column := by
      rw [String.toList_append, takeWhile_firstLine hline, String.ofList_toList]
    simp only [conflictField?, Option.filter_none, hfirst]
    cases clash <;> decide +kernel

end Store.Clash

theorem Accounts.clashFailure_of_field {clash : Store.Clash} {field : String}
    (h : clash.field? = some field) : clashFailure clash = .rejected (.fieldTaken field) := by
  cases clash <;> cases h <;> rfl

theorem Store.exists_email_of_replaceUser {s : Store} {u : User} {clash : Clash}
    (h : s.replaceUser u = .error clash) :
    clash = .email ∧ ∃ v ∈ s.users, v.id ≠ u.id ∧ v.lowerEmail = u.lowerEmail := by
  unfold replaceUser at h
  split at h
  · rename_i hemail
    cases h
    exact ⟨rfl, by simpa using hemail⟩
  · cases h

/-! ## Values that are taken -/

/-- The account has what a request gives in a field in which accounts differ, but for the case of
the letters. -/
inductive User.Collides (v : User) (given : Json.Object) : String → Prop
  | username {text : String} (asked : Entries.get? given "username" = some (.str text))
      (same : Text.lower v.username = Text.lower text) : Collides v given "username"
  | email {text : String} (asked : Entries.get? given "email" = some (.str text))
      (same : Text.lower v.email = Text.lower text) : Collides v given "email"

/-- Some account collides with a request in the field. The account that the request is about, if it
is about one, does not count. -/
def Store.Taken (s : Store) (own : Option String) (given : Json.Object) (field : String) : Prop :=
  ∃ v ∈ s.users, (∀ name ∈ own, v.username ≠ name) ∧ v.Collides given field

theorem User.collides_iff {v u : User} {given : Json.Object}
    (hname : v.lowerUsername = u.lowerUsername ↔
      ∃ text, Entries.get? given "username" = some (.str text) ∧
        Text.lower v.username = Text.lower text)
    (hemail : v.lowerEmail = u.lowerEmail ↔
      ∃ text, Entries.get? given "email" = some (.str text) ∧
        Text.lower v.email = Text.lower text) {field : String} :
    v.Collides given field ↔
      ∃ clash : Store.Clash, clash.field? = some field ∧ clash.Meets v u := by
  constructor
  · rintro (⟨asked, same⟩ | ⟨asked, same⟩)
    · exact ⟨.username, rfl, hname.mpr ⟨_, asked, same⟩⟩
    · exact ⟨.email, rfl, hemail.mpr ⟨_, asked, same⟩⟩
  · rintro ⟨clash, hfield, hmeets⟩
    cases clash with
    | username =>
      cases hfield
      obtain ⟨_, asked, same⟩ := hname.mp hmeets
      exact .username asked same
    | email =>
      cases hfield
      obtain ⟨_, asked, same⟩ := hemail.mp hmeets
      exact .email asked same
    | identifier => cases hfield

theorem Accounts.Distinct.not_meets {users : List User} (h : Distinct users) {v u : User}
    (hv : v ∈ users) (hu : u ∈ users) (hname : v.username ≠ u.username) (clash : Store.Clash) :
    ¬ clash.Meets v u := by
  intro hmeets
  refine hname (congrArg User.username ?_)
  cases clash with
  | email => exact List.inj_on_of_nodup_map h.emails hv hu hmeets
  | username => exact List.inj_on_of_nodup_map h.names hv hu hmeets
  | identifier => exact h.eq_of_id hv hu hmeets

/-- The requests that pass their checks, for a new account or about one that is there: what they
give, the row that they make of it, and what the store says to the row. -/
inductive AccountWrite (c : Call) (s : Store) :
    Option String → Json.Object → User → Except Store.Clash Store → Prop
  | register {given : Json.Object} {fields : Accounts.NewUser} {row : User}
      (asked : c.operation = .createUser (.obj given))
      (checked : Accounts.checkNew c.limits (.obj given) = .ok fields)
      (fresh : c.Fresh s)
      (made : row = .ofFields c.drawn fields.username fields.email fields.salt fields.key) :
      AccountWrite c s none given row (s.addUser row)
  | amend {username : String} {given : Json.Object} {patch : Accounts.Patch} {u row : User}
      (asked : c.operation = .updateUser username (.obj given))
      (filled : given ≠ [])
      (checked : Accounts.checkPatch c.limits (.obj given) = .ok patch)
      (found : s.userNamed? username = some u)
      (made : row = patch.apply u) :
      AccountWrite c s (some username) given row (s.replaceUser row)

namespace AccountWrite
variable {c : Call} {s : Store} {own : Option String} {given : Json.Object} {row : User}
  {written : Except Store.Clash Store}

theorem result_eq (h : AccountWrite c s own given row written) :
    ∃ reply, c.result s = (written.mapError Accounts.clashFailure).map fun _ => reply := by
  cases h with
  | register asked checked _ made =>
    rw [Call.drawn] at made
    refine ⟨.user row.toPublic, ?_⟩
    simp only [Call.result, Call.run, asked, Operation.run, Accounts.create, checked, ← made]
    cases s.addUser row <;> rfl
  | amend asked filled checked found made =>
    have hfilled : Accounts.isEmptyObject (.obj given) = false := by
      obtain ⟨e, more, rfl⟩ := List.exists_cons_of_ne_nil filled
      rfl
    refine ⟨.done, ?_⟩
    simp only [Call.result, Call.run, asked, Operation.run, Accounts.update, hfilled,
      Bool.false_eq_true, if_false, checked, Accounts.require_eq_ok.mpr found, Outcome.ok_bind,
      ← made]
    cases s.replaceUser row <;> rfl

/-- To collide in a field is to meet the row in its column. Only a patch without an address needs
that no two accounts share one: its row has the old address. -/
theorem collides_iff (h : AccountWrite c s own given row written)
    (hs : Accounts.Distinct s.users) {v : User} (hv : v ∈ s.users)
    (hother : ∀ name ∈ own, v.username ≠ name) {field : String} :
    v.Collides given field ↔ ∃ clash : Store.Clash, clash.field? = some field ∧
      clash.Meets v row := by
  have hlowered := hs.lowered v hv
  cases h with
  | register asked checked fresh made =>
    obtain ⟨_, ⟨⟩, hemail, _, _, hname, _⟩ := Accounts.checkNew_eq_ok.mp checked
    have hgivenName := Body.get?_of_get (Accounts.checkUsername_eq_ok.mp hname).1 (by simp)
    have hgivenEmail := Body.get?_of_get (Accounts.checkEmail_eq_ok.mp hemail).1 (by simp)
    refine User.collides_iff ?_ ?_
    · simp [hgivenName, hlowered.name, made, User.ofFields]
    · simp [hgivenEmail, hlowered.email, made, User.ofFields]
  | @amend username _ patch u _ asked filled checked found made =>
    obtain ⟨_, ⟨⟩, hemail, _, _, hknown⟩ := Accounts.checkPatch_eq_ok.mp checked
    obtain ⟨hu, rfl⟩ := Store.found_name found
    have hgivenName : Entries.get? given "username" = none :=
      Entries.get?_eq_none_iff.mpr fun hmem =>
        absurd (Fields.checkKnown_eq_ok.mp hknown _ hmem) (by decide)
    have hgivenEmail : Entries.get? given "email" = patch.email.map .str :=
      Fields.get?_of_ifPresent (Fields.spelled_id hemail) fun hcheck =>
        (Accounts.checkEmail_eq_ok.mp hcheck).1
    have hapart := hs.not_meets hv hu (hother _ rfl)
    refine User.collides_iff ?_ ?_
    · simpa [hgivenName, made, Store.Clash.Meets] using hapart .username
    · cases haddress : patch.email with
      | none =>
        simpa [hgivenEmail, made, Accounts.Patch.apply, haddress, Store.Clash.Meets] using
          hapart .email
      | some email =>
        simp [hgivenEmail, made, Accounts.Patch.apply, haddress, User.withEmail, hlowered.email]

/-- A row that is refused meets that of an account that the request is not about. -/
theorem meets_of_error (h : AccountWrite c s own given row written)
    (hs : Accounts.Distinct s.users) {clash : Store.Clash} (hclash : written = .error clash) :
    clash ≠ .identifier ∧
      ∃ v ∈ s.users, (∀ name ∈ own, v.username ≠ name) ∧ clash.Meets v row := by
  cases h with
  | register asked checked fresh made =>
    obtain ⟨v, hv, hmeets⟩ := Store.exists_meets_of_addUser hclash
    refine ⟨?_, v, hv, by simp, hmeets⟩
    rintro rfl
    have hunused : s.hasUserId c.drawn = false := by simpa [Call.Fresh, asked] using fresh
    exact absurd (Store.hasUserId_of_clash hclash) (by simp [made, User.ofFields, hunused])
  | @amend username given patch u row asked filled checked found made =>
    obtain ⟨rfl, v, hv, hid, hmeets⟩ := Store.exists_email_of_replaceUser hclash
    obtain ⟨hu, rfl⟩ := Store.found_name found
    refine ⟨by simp, v, hv, ?_, hmeets⟩
    rintro _ ⟨⟩ hname
    rw [hs.eq_of_name hv hu hname, made, Accounts.id_apply] at hid
    exact hid rfl

theorem not_meets_of_ok (h : AccountWrite c s own given row written)
    (hs : Accounts.Distinct s.users) {t : Store} (hok : written = .ok t) {v : User}
    (hv : v ∈ s.users) (hother : ∀ name ∈ own, v.username ≠ name) (clash : Store.Clash) :
    ¬ clash.Meets v row := by
  cases h with
  | register asked checked fresh made =>
    obtain ⟨hemail, hname, hid⟩ := Store.clash?_eq_none.mp (Store.addUser_eq_ok.mp hok).1
    cases clash with
    | email => exact hemail v hv
    | username => exact hname v hv
    | identifier => exact hid v hv
  | @amend username _ patch u _ asked filled checked found made =>
    obtain ⟨hu, rfl⟩ := Store.found_name found
    have hapart := hs.not_meets hv hu (hother _ rfl)
    cases clash with
    | email =>
      refine (Store.replaceUser_eq_ok.mp hok).1 v hv ?_
      rw [made, Accounts.id_apply]
      exact hapart .identifier
    | username => simpa [Store.Clash.Meets, made] using hapart .username
    | identifier => simpa [Store.Clash.Meets, made] using hapart .identifier

theorem taken_of_error (h : AccountWrite c s own given row written)
    (hs : Accounts.Distinct s.users) {clash : Store.Clash} (hclash : written = .error clash) :
    ∃ field, clash.field? = some field ∧ s.Taken own given field := by
  obtain ⟨hcolumn, v, hv, hother, hmeets⟩ := h.meets_of_error hs hclash
  obtain ⟨field, hfield⟩ := Store.Clash.exists_field hcolumn
  exact ⟨field, hfield, v, hv, hother, (h.collides_iff hs hv hother).mpr ⟨clash, hfield, hmeets⟩⟩

theorem not_taken_of_ok (h : AccountWrite c s own given row written)
    (hs : Accounts.Distinct s.users) {t : Store} (hok : written = .ok t) (field : String) :
    ¬ s.Taken own given field := by
  rintro ⟨v, hv, hother, hcollides⟩
  obtain ⟨clash, _, hmeets⟩ := (h.collides_iff hs hv hother).mp hcollides
  exact h.not_meets_of_ok hs hok hv hother clash hmeets

end AccountWrite

/-- A request that passes its checks succeeds exactly if no account but the one that it is about has
the name or the address that it gives, but for the case of the letters. Otherwise the store is left
as it was, and the answer names the field that any report of the clash is read as, in which the
request does collide with another account. -/
theorem duplicates_are_refused {allowed : Call → Store → Prop} {c : Call} {s : Store}
    {own : Option String} {given : Json.Object} {row : User} {written : Except Store.Clash Store}
    (hs : Reachable allowed s) (h : AccountWrite c s own given row written) :
    ((∃ reply, c.result s = .ok reply) ↔ ∀ field, ¬ s.Taken own given field) ∧
    ∀ e, c.result s = .error e → c.after s = s ∧ ∃ clash field, written = .error clash ∧
      (∀ constraint message, clash.Reported constraint message →
        conflictField? constraint message = some field) ∧
      e = .rejected (.fieldTaken field) ∧ s.Taken own given field := by
  obtain ⟨reply, hresult⟩ := h.result_eq
  constructor
  · cases hwritten : written with
    | ok t =>
      rw [hresult, hwritten]
      exact iff_of_true ⟨reply, rfl⟩ (h.not_taken_of_ok hs.distinct hwritten)
    | error clash =>
      obtain ⟨field, _, hfield⟩ := h.taken_of_error hs.distinct hwritten
      rw [hresult, hwritten]
      exact iff_of_false (by rintro ⟨_, ⟨⟩⟩) fun hfree => hfree field hfield
  · intro e he
    refine ⟨Call.after_of_error he fun _ _ hasked => ?_, ?_⟩
    · cases h <;> simp_all
    · cases hwritten : written with
      | ok t => simp [hwritten, hresult, Except.mapError, Except.map] at he
      | error clash =>
        obtain ⟨field, hcolumn, hfield⟩ := h.taken_of_error hs.distinct hwritten
        rw [hresult, hwritten] at he
        cases he
        exact ⟨clash, field, rfl, fun _ _ hreport => hreport.conflictField?_eq.trans hcolumn,
          Accounts.clashFailure_of_field hcolumn, hfield⟩

namespace Sample

/-- The address of this account reads like the report of another clash. -/
def mimic : Call := enrol 3 "carl" "users.username_lowercase@mail.org"

def guests : Store where
  users := members ++
    [.ofFields "5f5e10000000000007000003" "carl" "users.username_lowercase@mail.org" "5a" "0b"]

def twin : Json.Object := [("username", .str "dora"),
  ("email", .str "Users.Username_Lowercase@mail.org"), ("salt", .str "5A"), ("key", .str "0b")]

def twinRow : User :=
  .ofFields "5f5e10000000000007000004" "dora" "Users.Username_Lowercase@mail.org" "5a" "0b"

theorem twin_write : AccountWrite (call 4 (.createUser (.obj twin))) guests none twin twinRow
    (guests.addUser twinRow) := by
  have hchecked : Accounts.checkNew limits (.obj twin) =
      .ok ⟨"dora", "Users.Username_Lowercase@mail.org", "5a", "0b"⟩ := rfl
  exact .register rfl hchecked (by decide +kernel) rfl

end Sample

theorem duplicates_are_refused_sample :
    Reachable Call.Fresh Sample.guests ∧
    AccountWrite (Sample.call 4 (.createUser (.obj Sample.twin))) Sample.guests none Sample.twin
      Sample.twinRow (Sample.guests.addUser Sample.twinRow) ∧
    (Sample.call 4 (.createUser (.obj Sample.twin))).result Sample.guests =
      reject (.fieldTaken "email") ∧
    (Sample.call 4 (.createUser (.obj Sample.twin))).after Sample.guests = Sample.guests ∧
    Sample.guests.Taken none Sample.twin "email" := by
  have hguests : Reachable Call.Fresh Sample.guests :=
    .call (c := Sample.mimic) (Sample.members_kept.mono fun _ _ => And.right) (by decide +kernel)
  have hresult : (Sample.call 4 (.createUser (.obj Sample.twin))).result Sample.guests =
      reject (.fieldTaken "email") := rfl
  obtain ⟨_, hrefused⟩ := duplicates_are_refused hguests Sample.twin_write
  obtain ⟨hafter, _, _, _, _, hfield, htaken⟩ := hrefused _ hresult
  cases hfield
  exact ⟨hguests, Sample.twin_write, hresult, hafter, htaken⟩

end FileShare

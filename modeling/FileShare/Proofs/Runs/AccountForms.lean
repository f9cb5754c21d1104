import FileShare.Proofs.AccountFields
import FileShare.Proofs.Runs.AccountCalls
import FileShare.Proofs.Runs.Courses

/-! # The form of stored accounts

What an account derives from its name and address, and what the settings ask of its fields, is set
up at the registration and again by every patch. Until it is deleted, an account keeps its
identifier and its name, and no other account takes either of them.
-/
namespace FileShare

structure User.WellFormed (limits : Settings) (u : User) : Prop where
  lowerUsername : u.lowerUsername = Text.lower u.username
  lowerEmail : u.lowerEmail = Text.lower u.email
  nameLength : limits.minUsernameLength ≤ u.username.length ∧
    (u.username.length : Int) ≤ limits.maxUsernameLength
  nameChars : u.username ≠ "" ∧ ∀ c ∈ u.username.toList, c.isAlphanum ∨ c = '_' ∨ c = '-'
  unreserved : u.username ≠ "public"
  salt : Text.IsHex limits.saltLength u.salt
  key : Text.IsHex limits.keyLength u.key
  email : Email.IsShaped u.email
  emailLength : limits.minEmailLength ≤ u.email.length ∧
    (u.email.length : Int) ≤ limits.maxEmailLength

namespace User.WellFormed
variable {limits : Settings}

theorem ofFields {v : Json} {fields : Accounts.NewUser}
    (h : Accounts.checkNew limits v = .ok fields) (id : String) :
    (User.ofFields id fields.username fields.email fields.salt fields.key).WellFormed limits := by
  obtain ⟨body, rfl, hemail, hsalt, hkey, hname, _⟩ := Accounts.checkNew_eq_ok.mp h
  obtain ⟨_, hshaped, hbounds⟩ := Accounts.checkEmail_eq_ok.mp hemail
  obtain ⟨_, hname, hpublic⟩ := Accounts.checkUsername_eq_ok.mp hname
  obtain ⟨hlength, hchars⟩ := Username.isShaped_iff.mp hname
  exact {
    lowerUsername := rfl
    lowerEmail := rfl
    nameLength := hlength
    nameChars := hchars
    unreserved := hpublic
    salt := Accounts.isHex_of_checkHex hsalt
    key := Accounts.isHex_of_checkHex hkey
    email := hshaped
    emailLength := hbounds }

variable {u : User} (hu : u.WellFormed limits)
include hu

theorem withEmail {v : Json} {email : String} (h : Accounts.checkEmail limits v = .ok email) :
    (u.withEmail email).WellFormed limits := by
  obtain ⟨_, hshaped, hbounds⟩ := Accounts.checkEmail_eq_ok.mp h
  exact { hu with lowerEmail := rfl, email := hshaped, emailLength := hbounds }

theorem apply {v : Json} {patch : Accounts.Patch}
    (h : Accounts.checkPatch limits v = .ok patch) : (patch.apply u).WellFormed limits := by
  obtain ⟨body, rfl, hemail, hsalt, hkey, _⟩ := Accounts.checkPatch_eq_ok.mp h
  have hsalt := Accounts.isHex_patched hsalt hu.salt
  have hkey := Accounts.isHex_patched hkey hu.key
  unfold Accounts.Patch.apply
  cases hp : patch.email with
  | none => exact { hu with salt := hsalt, key := hkey }
  | some email =>
    have hw := hu.withEmail (Fields.exists_of_ifPresent hemail hp).choose_spec
    exact { hw with salt := hsalt, key := hkey }

end User.WellFormed

variable {s t : Store} {limits : Settings}

theorem Reachable.accountForms {allowed : Call → Store → Prop} (h : Reachable allowed s)
    (hfixed : ∀ c s, allowed c s → c.limits = limits) : ∀ u ∈ s.users, u.WellFormed limits :=
  h.forall_users
    (fun c s _ _ next checked => hfixed c s next ▸ User.WellFormed.ofFields checked c.drawn)
    fun c s _ _ _ next checked hu => hu.apply (hfixed c s next ▸ checked)

/-! ## Accounts that stay -/

theorem Course.keeps_account {events : List Event} (h : Course s events t)
    (hs : Reachable (fun _ _ => True) s) {u : User} (hu : u ∈ s.users)
    (hstays : ∀ e ∈ events, ¬ e.Ends u.username) :
    ∃ v ∈ t.users, v.id = u.id ∧ v.username = u.username := by
  induction h with
  | nil => exact ⟨u, hu, rfl, rfl⟩
  | cons c before ih =>
    obtain ⟨hlast, hpast⟩ := List.forall_mem_cons.mp hstays
    obtain ⟨v, hv, hid, hname⟩ := ih hpast
    obtain ⟨w, hw, hsame⟩ := (c.accountEffect _).keeps_account (before.reachable hs).distinct hv
      fun hdone asked => hlast ⟨hdone, hname ▸ asked⟩
    exact ⟨w, hw, hsame.1.trans hid, hsame.2.trans hname⟩

/-- In every run under one group of settings, whatever is asked for and whatever is drawn: no two
accounts agree in the lower case of their names or of their addresses, every account is well-formed,
and until a call deletes it, an account keeps its identifier and its name, which are those of no
other account. -/
theorem accounts_keep_their_form (h : Reachable (fun c _ => c.limits = limits) s) :
    s.users.Pairwise (fun u v => Text.lower u.username ≠ Text.lower v.username ∧
      Text.lower u.email ≠ Text.lower v.email) ∧
    (∀ u ∈ s.users, u.WellFormed limits) ∧
    ∀ events t, Course s events t → ∀ u ∈ s.users, (∀ e ∈ events, ¬ e.Ends u.username) →
      (∃ v ∈ t.users, v.id = u.id ∧ v.username = u.username) ∧
        ∀ w ∈ t.users, w.id = u.id ↔ w.username = u.username := by
  have hforms := h.accountForms fun _ _ => id
  refine ⟨?_, hforms, ?_⟩
  · have hnames := List.pairwise_map.mp h.distinct.names
    have hemails := List.pairwise_map.mp h.distinct.emails
    refine List.Pairwise.imp_of_mem (fun {u v} hu hv hdiffer => ?_) (hnames.and hemails)
    rwa [(hforms u hu).lowerUsername, (hforms v hv).lowerUsername, (hforms u hu).lowerEmail,
      (hforms v hv).lowerEmail] at hdiffer
  · intro events t hcourse u hu hstays
    have hrun : Reachable (fun _ _ => True) s := h.mono fun _ _ _ => trivial
    have hdistinct := (hcourse.reachable hrun).distinct
    obtain ⟨v, hv, hid, hname⟩ := hcourse.keeps_account hrun hu hstays
    refine ⟨⟨v, hv, hid, hname⟩, fun w hw => ⟨fun hsame => ?_, fun hsame => ?_⟩⟩
    · cases hdistinct.eq_of_id hw hv (hsame.trans hid.symm)
      exact hname
    · cases hdistinct.eq_of_name hw hv (hsame.trans hname.symm)
      exact hid

/-- The account of one user outlasts a course in which the other leaves and comes back. -/
theorem accounts_keep_their_form_sample :
    Reachable (fun c _ => c.limits = Sample.limits) Sample.shelf ∧
    Sample.shelf.users.Pairwise (fun u v => Text.lower u.username ≠ Text.lower v.username ∧
      Text.lower u.email ≠ Text.lower v.email) ∧
    (∀ u ∈ Sample.shelf.users, u.WellFormed Sample.limits) ∧
    Course Sample.shelf Sample.season Sample.later ∧
    (∃ v ∈ Sample.later.users, v.id = "5f5e10000000000007000001" ∧ v.username = "anna") ∧
    ∀ w ∈ Sample.later.users, w.id = "5f5e10000000000007000001" ↔ w.username = "anna" := by
  have hrun : Reachable (fun c _ => c.limits = Sample.limits) Sample.shelf :=
    Sample.shelf_kept.mono fun _ _ => And.left
  obtain ⟨hdiffer, hforms, hstays⟩ := accounts_keep_their_form hrun
  have hanna : User.ofFields "5f5e10000000000007000001" "anna" "anna@mail.org" "5a" "0b" ∈
      Sample.shelf.users := List.mem_cons_self
  have hends : ∀ e ∈ Sample.season, ¬ e.Ends "anna" := by
    simp [Sample.season, Event.Ends, Call.event, Sample.move, Sample.leave, Sample.rejoin,
      Sample.enrol, Sample.call]
  exact ⟨hrun, hdiffer, hforms, Sample.season_course,
    hstays _ _ Sample.season_course _ hanna hends⟩

end FileShare

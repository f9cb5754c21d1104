import FileShare.Proofs.Runs.Calls

/-! # What calls do to the accounts

A call answers, and it leaves a table of accounts; the list below says which answers go with which
tables. From it follows what every store keeps, whatever identifiers are drawn and whatever settings
the calls bring: no two accounts share an identifier, a lower-case name or a lower-case address, and
an account keeps its identifier and its name until it ends.
-/
namespace FileShare

theorem Store.clash?_eq_none {s : Store} {u : User} :
    s.clash? u = none ↔ (∀ v ∈ s.users, v.lowerEmail ≠ u.lowerEmail) ∧
      (∀ v ∈ s.users, v.lowerUsername ≠ u.lowerUsername) ∧ ∀ v ∈ s.users, v.id ≠ u.id := by
  have hnone : ∀ {β : Type} [DecidableEq β] (key : User → β),
      s.users.any (fun v => key v = key u) = false ↔ ∀ v ∈ s.users, key v ≠ key u := by simp
  simp only [← hnone]
  unfold Store.clash?
  split
  · simp [*]
  · split
    · simp [*]
    · split <;> simp [*]

/-- An account has the value of another in the column. -/
def Store.Clash.Meets (v u : User) : Clash → Prop
  | .email => v.lowerEmail = u.lowerEmail
  | .username => v.lowerUsername = u.lowerUsername
  | .identifier => v.id = u.id

theorem Store.exists_meets_of_addUser {s : Store} {u : User} {clash : Clash}
    (h : s.addUser u = .error clash) : ∃ v ∈ s.users, clash.Meets v u := by
  have hclash : s.clash? u = some clash := by
    unfold addUser at h
    cases hfound : s.clash? u <;> simp_all
  unfold clash? at hclash
  split at hclash
  · rename_i hemail
    cases hclash
    simpa [Clash.Meets] using hemail
  · split at hclash
    · rename_i hname
      cases hclash
      simpa [Clash.Meets] using hname
    · split at hclash
      · rename_i hid
        cases hclash
        simpa [Clash.Meets] using hid
      · cases hclash

@[simp] theorem Accounts.id_apply (p : Accounts.Patch) (u : User) : (p.apply u).id = u.id := by
  unfold Accounts.Patch.apply
  split <;> rfl

@[simp] theorem Accounts.username_apply (p : Accounts.Patch) (u : User) :
    (p.apply u).username = u.username := by
  unfold Accounts.Patch.apply
  split <;> rfl

def Operation.keepsAccounts : Operation → Bool
  | createUser _ | updateUser _ _ | deleteUser _ => false
  | _ => true

/-- What a call may answer, together with the accounts that it leaves. -/
inductive AccountEffect (c : Call) (s : Store) : Except Failure Reply → List User → Prop
  | kept {outcome : Except Failure Reply} (asked : c.operation.keepsAccounts) :
      AccountEffect c s outcome s.users
  | refused {e : Failure} : AccountEffect c s (.error e) s.users
  | registered {body : Json} {fields : Accounts.NewUser} {u : User}
      (asked : c.operation = .createUser body)
      (checked : Accounts.checkNew c.limits body = .ok fields)
      (made : u = .ofFields c.drawn fields.username fields.email fields.salt fields.key)
      (free : s.clash? u = none) :
      AccountEffect c s (.ok (.user u.toPublic)) (s.users ++ [u])
  | untouched {username : String} {body : Json} (asked : c.operation = .updateUser username body)
      (empty : Accounts.isEmptyObject body) : AccountEffect c s (.ok .done) s.users
  | amended {username : String} {body : Json} {patch : Accounts.Patch} {u v : User}
      (asked : c.operation = .updateUser username body)
      (checked : Accounts.checkPatch c.limits body = .ok patch)
      (found : s.userNamed? username = some u)
      (made : v = patch.apply u)
      (free : ∀ w ∈ s.users, w.id ≠ v.id → w.lowerEmail ≠ v.lowerEmail) :
      AccountEffect c s (.ok .done) (s.users.map fun w => if w.id = v.id then v else w)
  | dismissed {username : String} {u : User} (asked : c.operation = .deleteUser username)
      (found : s.userNamed? username = some u) :
      AccountEffect c s (.ok .done) (s.users.filter fun w => w.id ≠ u.id)

namespace Call
variable {c : Call} {s : Store}

theorem accountEffect_createUser {body : Json} (h : c.operation = .createUser body) :
    AccountEffect c s (c.result s) (c.after s).users := by
  simp only [result, after, run, h, Operation.run, Accounts.create]
  cases hfields : Accounts.checkNew c.limits body with
  | error e => exact .refused
  | ok fields =>
    generalize hu : User.ofFields (c.generator.draw c.now).1 fields.username fields.email
      fields.salt fields.key = u
    cases hadd : s.addUser u with
    | error clash =>
      simp only [hu, hadd]
      exact .refused
    | ok t =>
      simp only [hu, hadd]
      obtain ⟨hfree, rfl⟩ := Store.addUser_eq_ok.mp hadd
      exact .registered h hfields hu.symm hfree

theorem accountEffect_updateUser {username : String} {body : Json}
    (h : c.operation = .updateUser username body) :
    AccountEffect c s (c.result s) (c.after s).users := by
  simp only [result, after, run, h, Operation.run]
  cases hupdate : Accounts.update c.limits username body s with
  | error e => exact .refused
  | ok t =>
    rcases Accounts.update_cases hupdate with ⟨hempty, rfl⟩ | ⟨patch, u, hpatch, hfound, hfree, rfl⟩
    · exact .untouched h hempty
    · exact .amended h hpatch hfound rfl hfree

theorem accountEffect_deleteUser {username : String} (h : c.operation = .deleteUser username) :
    AccountEffect c s (c.result s) (c.after s).users := by
  simp only [result, after, run, h, Operation.run]
  cases hdelete : Accounts.delete username s with
  | error e => exact .refused
  | ok t =>
    obtain ⟨u, hfound, rfl⟩ := Accounts.delete_eq_ok.mp hdelete
    exact .dismissed h hfound

theorem users_after (h : c.operation.keepsAccounts) : (c.after s).users = s.users := by
  have heffect := c.effect s
  generalize c.after s = t at heffect ⊢
  cases heffect with
  | nothing => rfl
  | register asked | amend asked | dismiss asked =>
    rw [asked] at h
    cases h
  | create _ _ _ written => exact Store.users_addNode written
  | @change _ _ _ _ _ n => cases n <;> rfl
  | remove => rfl

/-- The answer and the accounts of a call are those of one line of the list. -/
theorem accountEffect (c : Call) (s : Store) :
    AccountEffect c s (c.result s) (c.after s).users := by
  cases h : c.operation with
  | createUser body => exact accountEffect_createUser h
  | updateUser username body => exact accountEffect_updateUser h
  | deleteUser username => exact accountEffect_deleteUser h
  | _ =>
    have hkeeps : c.operation.keepsAccounts := by rw [h]; rfl
    rw [users_after hkeeps]
    exact .kept hkeeps

end Call

/-! ## What every store keeps -/

variable {c : Call} {s : Store} {outcome : Except Failure Reply} {users : List User}

theorem Store.found_name {username : String} {u : User} (h : s.userNamed? username = some u) :
    u ∈ s.users ∧ u.username = username :=
  ⟨List.mem_of_find?_eq_some h, by simpa using List.find?_some h⟩

/-- A property of single accounts outlasts every call if new accounts have it and if patches that
pass their check keep it. -/
theorem AccountEffect.forall_users {P : User → Prop} (h : AccountEffect c s outcome users)
    (made : ∀ body fields, Accounts.checkNew c.limits body = .ok fields →
      P (.ofFields c.drawn fields.username fields.email fields.salt fields.key))
    (patched : ∀ body patch u, Accounts.checkPatch c.limits body = .ok patch → P u →
      P (patch.apply u)) (hs : ∀ u ∈ s.users, P u) : ∀ u ∈ users, P u := by
  cases h with
  | kept | refused | untouched => exact hs
  | registered _ checked hmade =>
    intro v hv
    rcases List.mem_append.mp hv with hv | hv
    · exact hs v hv
    · rw [List.mem_singleton.mp hv, hmade]
      exact made _ _ checked
  | amended _ checked found hmade =>
    intro v hv
    obtain ⟨w, hw, rfl⟩ := List.mem_map.mp hv
    split
    · rw [hmade]
      exact patched _ _ _ checked (hs _ (Store.found_name found).1)
    · exact hs w hw
  | dismissed => exact fun v hv => hs v (List.mem_filter.mp hv).1

theorem Reachable.forall_users {allowed : Call → Store → Prop} {P : User → Prop}
    (h : Reachable allowed s)
    (made : ∀ c s body fields, allowed c s → Accounts.checkNew c.limits body = .ok fields →
      P (.ofFields c.drawn fields.username fields.email fields.salt fields.key))
    (patched : ∀ c s body patch u, allowed c s → Accounts.checkPatch c.limits body = .ok patch →
      P u → P (patch.apply u)) : ∀ u ∈ s.users, P u := by
  induction h with
  | empty => exact fun _ hu => absurd hu List.not_mem_nil
  | @call c s _ next ih =>
    exact (c.accountEffect s).forall_users (fun body fields => made c s body fields next)
      (fun body patch u => patched c s body patch u next) ih

namespace Accounts

/-- The name and the address of an account stand in it in lower case, too. -/
structure Lowered (u : User) : Prop where
  name : u.lowerUsername = Text.lower u.username
  email : u.lowerEmail = Text.lower u.email

theorem Lowered.apply {u : User} (h : Lowered u) (p : Patch) : Lowered (p.apply u) := by
  unfold Patch.apply
  cases p.email with
  | none => exact ⟨h.name, h.email⟩
  | some email => exact ⟨h.name, rfl⟩

@[simp] theorem lowerUsername_apply (p : Patch) (u : User) :
    (p.apply u).lowerUsername = u.lowerUsername := by
  unfold Patch.apply
  split <;> rfl

/-- Accounts that differ in their identifiers and, whatever the case of the letters, in their names
and in their addresses. -/
structure Distinct (users : List User) : Prop where
  lowered : ∀ u ∈ users, Lowered u
  ids : (users.map User.id).Nodup
  names : (users.map User.lowerUsername).Nodup
  emails : (users.map User.lowerEmail).Nodup

namespace Distinct
variable (h : Distinct users)
include h

theorem eq_of_id {u v : User} (hu : u ∈ users) (hv : v ∈ users) (hid : u.id = v.id) : u = v :=
  List.inj_on_of_nodup_map h.ids hu hv hid

theorem eq_of_name {u v : User} (hu : u ∈ users) (hv : v ∈ users)
    (hname : u.username = v.username) : u = v := by
  refine List.inj_on_of_nodup_map h.names hu hv ?_
  rw [(h.lowered u hu).name, (h.lowered v hv).name, hname]

end Distinct

theorem Distinct.userNamed?_iff {s : Store} (h : Distinct s.users) {username : String} {u : User} :
    s.userNamed? username = some u ↔ u ∈ s.users ∧ u.username = username := by
  constructor
  · exact Store.found_name
  · rintro ⟨hu, rfl⟩
    have hnames : (s.users.map User.username).Nodup :=
      List.Nodup.map_on (fun v hv w hw => h.eq_of_name hv hw) (h.ids.of_map _)
    exact find?_of_nodup hnames hu

end Accounts

theorem AccountEffect.distinct (h : AccountEffect c s outcome users)
    (hs : Accounts.Distinct s.users) : Accounts.Distinct users := by
  have hlowered : ∀ u ∈ users, Accounts.Lowered u :=
    h.forall_users (fun _ _ _ => ⟨rfl, rfl⟩) (fun _ patch _ _ hu => hu.apply patch) hs.lowered
  cases h with
  | kept | refused | untouched => exact hs
  | registered _ _ _ free =>
    obtain ⟨hemail, hname, hid⟩ := Store.clash?_eq_none.mp free
    exact ⟨hlowered, nodup_added hs.ids hid, nodup_added hs.names hname,
      nodup_added hs.emails hemail⟩
  | @amended _ _ patch u v _ _ found made free =>
    have hname : ∀ w ∈ s.users, w.id ≠ v.id → w.lowerUsername ≠ v.lowerUsername := by
      intro w hw hother hsame
      rw [made, Accounts.lowerUsername_apply] at hsame
      have hwu := List.inj_on_of_nodup_map hs.names hw (Store.found_name found).1 hsame
      exact hother (by rw [hwu, made, Accounts.id_apply])
    exact ⟨hlowered, nodup_replaced hs.ids hs.ids fun _ _ hother => hother,
      nodup_replaced hs.ids hs.names hname, nodup_replaced hs.ids hs.emails free⟩
  | @dismissed _ u =>
    have hfewer : (s.users.filter fun w => w.id ≠ u.id).Sublist s.users := List.filter_sublist
    exact ⟨hlowered, hs.ids.sublist (hfewer.map _), hs.names.sublist (hfewer.map _),
      hs.emails.sublist (hfewer.map _)⟩

theorem Reachable.distinct {allowed : Call → Store → Prop} (h : Reachable allowed s) :
    Accounts.Distinct s.users := by
  induction h with
  | empty => exact ⟨fun _ hu => absurd hu List.not_mem_nil, .nil, .nil, .nil⟩
  | @call c s _ _ ih => exact (c.accountEffect s).distinct ih

/-! ## Accounts that stay -/

/-- A call that does not end the account of a name leaves one of that name and identifier. -/
theorem AccountEffect.keeps_account (h : AccountEffect c s outcome users)
    (hs : Accounts.Distinct s.users) {u : User} (hu : u ∈ s.users)
    (hstays : (∃ reply, outcome = .ok reply) → c.operation ≠ .deleteUser u.username) :
    ∃ v ∈ users, v.id = u.id ∧ v.username = u.username := by
  cases h with
  | kept | refused | untouched => exact ⟨u, hu, rfl, rfl⟩
  | registered => exact ⟨u, List.mem_append_left _ hu, rfl, rfl⟩
  | @amended _ _ patch w v _ _ found made =>
    refine ⟨_, List.mem_map_of_mem hu, ?_⟩
    split
    · rename_i hid
      rw [made, Accounts.id_apply] at hid
      cases hs.eq_of_id hu (Store.found_name found).1 hid
      rw [made, Accounts.id_apply, Accounts.username_apply]
      exact ⟨rfl, rfl⟩
    · exact ⟨rfl, rfl⟩
  | @dismissed username w asked found =>
    have hother : u.id ≠ w.id := by
      intro hid
      obtain ⟨hw, rfl⟩ := Store.found_name found
      cases hs.eq_of_id hu hw hid
      exact hstays ⟨_, rfl⟩ asked
    exact ⟨u, List.mem_filter.mpr ⟨hu, by simpa using hother⟩, rfl, rfl⟩

theorem Call.hasUser_after (hs : Accounts.Distinct s.users) {username : String}
    (hused : s.hasUser username) (hstays : c.operation ≠ .deleteUser username) :
    (c.after s).hasUser username := by
  obtain ⟨u, hu, rfl⟩ := Store.hasUser_iff.mp hused
  obtain ⟨v, hv, _, hname⟩ := (c.accountEffect s).keeps_account hs hu fun _ => hstays
  exact Store.hasUser_iff.mpr ⟨v, hv, hname⟩

end FileShare

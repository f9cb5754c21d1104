import FileShare.Proofs.AccountFields
import FileShare.Proofs.Runs.AccountCalls
import FileShare.Proofs.Runs.Courses

/-! # Authentication

The key that counts for a name is the one that was accepted last for the account of that name: with
its registration, or with a later patch that holds a key. A call that is refused accepts no key, and
the end of the account ends the key. The store holds that key in lower case and nothing else of it,
so an authentication succeeds for the texts with the same lower case. A text without a UTF-8 form
cannot be compared with it, which breaks the authentication down.
-/
namespace FileShare

/-! ## Keys in a history -/

def Operation.BringsKey (username key : String) : Operation → Prop
  | createUser (.obj body) =>
    Json.Object.get body "username" = .str username ∧ Json.Object.get body "key" = .str key
  | updateUser name (.obj body) => name = username ∧ Json.Object.get body "key" = .str key
  | _ => False

def Event.AcceptsKey (username key : String) (e : Event) : Prop :=
  e.Succeeds ∧ e.call.operation.BringsKey username key

/-- The event neither ends the account of a name nor brings a key for it. -/
def Event.Quiet (username : String) (e : Event) : Prop :=
  ¬ e.Ends username ∧ ∀ key, ¬ e.AcceptsKey username key

/-- The key that was accepted last for the account that has the name, after events of which the last
one comes first. -/
def CurrentKey (username key : String) (events : List Event) : Prop :=
  ∃ later e earlier, events = later ++ e :: earlier ∧ e.AcceptsKey username key ∧
    ∀ x ∈ later, x.Quiet username

theorem Operation.BringsKey.eq {username key other : String} {operation : Operation}
    (h : operation.BringsKey username key) (h' : operation.BringsKey username other) :
    key = other := by
  unfold BringsKey at h h'
  split at h
  · exact Json.str.inj (h.2.symm.trans h'.2)
  · exact Json.str.inj (h.2.symm.trans h'.2)
  · exact h.elim

namespace CurrentKey
variable {username key other : String} {e : Event} {past : List Event}

theorem not_nil : ¬ CurrentKey username key [] := by
  rintro ⟨later, e, earlier, hevents, _⟩
  simp at hevents

/-- The last event decides, or else the key is that of the events before. -/
theorem cons_iff :
    CurrentKey username key (e :: past) ↔
      e.AcceptsKey username key ∨ e.Quiet username ∧ CurrentKey username key past := by
  constructor
  · rintro ⟨later, x, earlier, hevents, haccepts, hlater⟩
    cases later with
    | nil =>
      cases hevents
      exact .inl haccepts
    | cons y later =>
      cases hevents
      obtain ⟨hlast, hlater⟩ := List.forall_mem_cons.mp hlater
      exact .inr ⟨hlast, later, x, earlier, rfl, haccepts, hlater⟩
  · rintro (haccepts | ⟨hlast, later, x, earlier, rfl, haccepts, hlater⟩)
    · exact ⟨[], e, past, rfl, haccepts, fun _ hx => absurd hx List.not_mem_nil⟩
    · exact ⟨e :: later, x, earlier, rfl, haccepts, List.forall_mem_cons.mpr ⟨hlast, hlater⟩⟩

theorem eq {events : List Event} (h : CurrentKey username key events)
    (h' : CurrentKey username other events) : key = other := by
  induction events with
  | nil => exact absurd h not_nil
  | cons e past ih =>
    rcases cons_iff.mp h with haccepts | ⟨hquiet, hpast⟩
    · rcases cons_iff.mp h' with haccepts' | ⟨hquiet', _⟩
      · exact haccepts.2.eq haccepts'.2
      · exact absurd haccepts (hquiet'.2 key)
    · rcases cons_iff.mp h' with haccepts' | ⟨_, hpast'⟩
      · exact absurd haccepts' (hquiet.2 other)
      · exact ih hpast hpast'

end CurrentKey

/-! ## Keys in the accounts -/

def HoldsKey (users : List User) (username key : String) : Prop :=
  ∃ u ∈ users, u.username = username ∧ u.key = key

theorem Accounts.key_of_checkPatch {limits : Settings} {v : Json} {patch : Accounts.Patch}
    (h : Accounts.checkPatch limits v = .ok patch) :
    ∃ body, v = .obj body ∧
      ((∃ given, Json.Object.get body "key" = .str given ∧
          patch.key = some (Text.lower given)) ∨
        (∀ given, Json.Object.get body "key" ≠ .str given) ∧ patch.key = none) := by
  obtain ⟨body, rfl, _, _, hkey, _⟩ := Accounts.checkPatch_eq_ok.mp h
  refine ⟨body, rfl, ?_⟩
  cases hp : patch.key with
  | none =>
    rw [hp] at hkey
    refine .inr ⟨fun given hgiven => ?_, rfl⟩
    unfold Fields.ifPresent at hkey
    cases hv : Entries.get? body "key" with
    | none => simp [Json.Object.get, hv] at hgiven
    | some v => simp [hv, Outcome.map_eq_ok] at hkey
  | some key =>
    rw [hp] at hkey
    obtain ⟨v, hv, hcheck⟩ := Fields.ifPresent_eq_some.mp hkey
    obtain ⟨given, rfl, _, rfl, _⟩ := Accounts.checkHex_eq_ok.mp hcheck
    exact .inl ⟨given, by simp [Json.Object.get, hv], rfl⟩

@[simp] theorem Accounts.key_apply (p : Accounts.Patch) (u : User) :
    (p.apply u).key = p.key.getD u.key := by
  unfold Accounts.Patch.apply
  split <;> rfl

namespace Event
variable {c : Call} {username key : String} {reply : Reply} {body : Json}

theorem quiet_of_error {e : Failure} : Quiet username ⟨c, .error e⟩ := by
  have hfails : ¬ Event.Succeeds ⟨c, .error e⟩ := by
    rintro ⟨_, h⟩
    cases h
  exact ⟨fun h => hfails h.1, fun _ h => hfails h.1⟩

theorem acceptsKey_ok : Event.AcceptsKey username key ⟨c, .ok reply⟩ ↔
    c.operation.BringsKey username key :=
  and_iff_right ⟨reply, rfl⟩

theorem ends_ok : Event.Ends username ⟨c, .ok reply⟩ ↔ c.operation = .deleteUser username :=
  and_iff_right ⟨reply, rfl⟩

theorem quiet_of_operation {outcome : Except Failure Reply}
    (hends : c.operation ≠ .deleteUser username)
    (hbrings : ∀ key, ¬ c.operation.BringsKey username key) : Quiet username ⟨c, outcome⟩ :=
  ⟨fun h => hends h.2, fun key h => hbrings key h.2⟩

/-- The event accepts a key with the lower case, or it is quiet and the key is held before it. -/
def KeyAfter (e : Event) (username key : String) (held : Prop) : Prop :=
  (∃ given, e.AcceptsKey username given ∧ Text.lower given = key) ∨ e.Quiet username ∧ held

theorem Quiet.keyAfter_iff {e : Event} (h : e.Quiet username) {held : Prop} :
    e.KeyAfter username key held ↔ held := by
  constructor
  · rintro (⟨given, haccepts, _⟩ | ⟨_, hheld⟩)
    · exact absurd haccepts (h.2 given)
    · exact hheld
  · exact fun hheld => .inr ⟨h, hheld⟩

end Event

section Step
variable {c : Call} {s : Store} {outcome : Except Failure Reply} {users : List User}

theorem HoldsKey.added_iff {u : User} {username key : String} :
    HoldsKey (users ++ [u]) username key ↔
      HoldsKey users username key ∨ u.username = username ∧ u.key = key := by
  simp only [HoldsKey, List.mem_append, List.mem_singleton, or_and_right, exists_or, exists_eq_left]

theorem HoldsKey.replaced_iff (hs : Accounts.Distinct s.users) {u v : User} (hu : u ∈ s.users)
    (hid : v.id = u.id) (hname : v.username = u.username) {username key : String} :
    HoldsKey (s.users.map fun w => if w.id = v.id then v else w) username key ↔
      u.username = username ∧ v.key = key ∨
        u.username ≠ username ∧ HoldsKey s.users username key := by
  constructor
  · rintro ⟨_, hrow, hsame, hkey⟩
    obtain ⟨w, hw, rfl⟩ := List.mem_map.mp hrow
    by_cases hwv : w.id = v.id
    · rw [if_pos hwv] at hsame hkey
      exact .inl ⟨hname.symm.trans hsame, hkey⟩
    · rw [if_neg hwv] at hsame hkey
      refine .inr ⟨fun hother => hwv ?_, w, hw, hsame, hkey⟩
      rw [hs.eq_of_name hw hu (hsame.trans hother.symm), hid]
  · rintro (⟨hsame, hkey⟩ | ⟨hother, w, hw, hsame, hkey⟩)
    · exact ⟨v, List.mem_map.mpr ⟨u, hu, if_pos hid.symm⟩, hname.trans hsame, hkey⟩
    · have hwv : w.id ≠ v.id := by
        intro hwv
        rw [hs.eq_of_id hw hu (hwv.trans hid)] at hsame
        exact hother hsame
      exact ⟨w, List.mem_map.mpr ⟨w, hw, if_neg hwv⟩, hsame, hkey⟩

theorem HoldsKey.removed_iff (hs : Accounts.Distinct s.users) {u : User} (hu : u ∈ s.users)
    {username key : String} :
    HoldsKey (s.users.filter fun w => w.id ≠ u.id) username key ↔
      u.username ≠ username ∧ HoldsKey s.users username key := by
  simp only [HoldsKey, List.mem_filter, decide_eq_true_eq]
  constructor
  · rintro ⟨w, ⟨hw, hother⟩, hsame, hkey⟩
    refine ⟨fun hname => hother ?_, w, hw, hsame, hkey⟩
    rw [hs.eq_of_name hw hu (hsame.trans hname.symm)]
  · rintro ⟨hother, w, hw, hsame, hkey⟩
    refine ⟨w, ⟨hw, fun hid => hother ?_⟩, hsame, hkey⟩
    rw [← hs.eq_of_id hw hu hid, hsame]

theorem Accounts.Distinct.holdsKey_iff (hs : Accounts.Distinct s.users) {u : User}
    (hu : u ∈ s.users) {key : String} : HoldsKey s.users u.username key ↔ u.key = key := by
  constructor
  · rintro ⟨v, hv, hname, hkey⟩
    rw [← hs.eq_of_name hv hu hname, hkey]
  · exact fun hkey => ⟨u, hu, rfl, hkey⟩

theorem holdsKey_registered {body : Json} {fields : Accounts.NewUser} {u : User} {reply : Reply}
    (hs : Accounts.Distinct s.users) (asked : c.operation = .createUser body)
    (checked : Accounts.checkNew c.limits body = .ok fields)
    (made : u = .ofFields c.drawn fields.username fields.email fields.salt fields.key)
    (free : s.clash? u = none) (username key : String) :
    HoldsKey (s.users ++ [u]) username key ↔
      Event.KeyAfter ⟨c, .ok reply⟩ username key (HoldsKey s.users username key) := by
  obtain ⟨body, rfl, _, _, hkey, hname, _⟩ := Accounts.checkNew_eq_ok.mp checked
  obtain ⟨given, hgiven, _, hlower, _⟩ := Accounts.checkHex_eq_ok.mp hkey
  obtain ⟨hname, _⟩ := Accounts.checkUsername_eq_ok.mp hname
  have hu : u.username = fields.username ∧ u.key = Text.lower given := by
    rw [made, hlower]
    exact ⟨rfl, rfl⟩
  have hbrings : ∀ k, c.operation.BringsKey username k ↔ u.username = username ∧ given = k := by
    simp [asked, Operation.BringsKey, hname, hgiven, hu.1]
  have hends : c.operation ≠ .deleteUser username := by simp [asked]
  rw [HoldsKey.added_iff]
  by_cases hsame : u.username = username
  · have hnew : ¬ HoldsKey s.users username key := by
      rintro ⟨v, hv, hvname, _⟩
      refine (Store.clash?_eq_none.mp free).2.1 v hv ?_
      rw [(hs.lowered v hv).name, hvname, ← hsame, made]
      rfl
    simp [Event.KeyAfter, Event.acceptsKey_ok, hbrings, hsame, hnew, hu.2]
  · have hquiet : Event.Quiet username ⟨c, .ok reply⟩ :=
      Event.quiet_of_operation hends fun k h => hsame ((hbrings k).mp h).1
    rw [hquiet.keyAfter_iff]
    simp [hsame]

theorem holdsKey_amended {name : String} {body : Json} {patch : Accounts.Patch} {u v : User}
    {reply : Reply} (hs : Accounts.Distinct s.users)
    (asked : c.operation = .updateUser name body)
    (checked : Accounts.checkPatch c.limits body = .ok patch)
    (found : s.userNamed? name = some u) (made : v = patch.apply u) (username key : String) :
    HoldsKey (s.users.map fun w => if w.id = v.id then v else w) username key ↔
      Event.KeyAfter ⟨c, .ok reply⟩ username key (HoldsKey s.users username key) := by
  obtain ⟨hu, rfl⟩ := Store.found_name found
  obtain ⟨body, rfl, hkey⟩ := Accounts.key_of_checkPatch checked
  have hends : c.operation ≠ .deleteUser username := by simp [asked]
  have hbrings : ∀ k, c.operation.BringsKey username k ↔
      u.username = username ∧ Json.Object.get body "key" = .str k := by
    simp [asked, Operation.BringsKey]
  rw [HoldsKey.replaced_iff hs hu (by simp [made]) (by simp [made])]
  by_cases hsame : u.username = username
  · subst hsame
    rcases hkey with ⟨given, hgiven, hwritten⟩ | ⟨hnone, hwritten⟩
    · simp [Event.KeyAfter, Event.acceptsKey_ok, Event.Quiet, hbrings, hgiven, made, hwritten]
    · have hquiet : Event.Quiet u.username ⟨c, .ok reply⟩ :=
        Event.quiet_of_operation hends fun k h => hnone k ((hbrings k).mp h).2
      rw [hquiet.keyAfter_iff, hs.holdsKey_iff hu]
      simp [made, hwritten]
  · have hquiet : Event.Quiet username ⟨c, .ok reply⟩ :=
      Event.quiet_of_operation hends fun k h => hsame ((hbrings k).mp h).1
    rw [hquiet.keyAfter_iff]
    simp [hsame]

theorem holdsKey_dismissed {name : String} {u : User} {reply : Reply}
    (hs : Accounts.Distinct s.users) (asked : c.operation = .deleteUser name)
    (found : s.userNamed? name = some u) (username key : String) :
    HoldsKey (s.users.filter fun w => w.id ≠ u.id) username key ↔
      Event.KeyAfter ⟨c, .ok reply⟩ username key (HoldsKey s.users username key) := by
  obtain ⟨hu, rfl⟩ := Store.found_name found
  have hbrings : ∀ k, ¬ c.operation.BringsKey username k := by simp [asked, Operation.BringsKey]
  rw [HoldsKey.removed_iff hs hu]
  by_cases hsame : u.username = username
  · simp [Event.KeyAfter, Event.acceptsKey_ok, Event.Quiet, Event.ends_ok, Operation.BringsKey,
      asked, hsame]
  · have hquiet : Event.Quiet username ⟨c, .ok reply⟩ :=
      Event.quiet_of_operation (by simp [asked, hsame]) hbrings
    rw [hquiet.keyAfter_iff]
    simp [hsame]

/-- After a call, an account holds the key that the call accepts for its name, or else the one that
it held, if the call does not end it. -/
theorem AccountEffect.holdsKey_iff (h : AccountEffect c s outcome users)
    (hs : Accounts.Distinct s.users) (username key : String) :
    HoldsKey users username key ↔
      Event.KeyAfter ⟨c, outcome⟩ username key (HoldsKey s.users username key) := by
  cases h with
  | kept asked =>
    have hquiet : Event.Quiet username ⟨c, outcome⟩ := by
      refine Event.quiet_of_operation (fun h => ?_) fun k h => ?_
      · simp [h, Operation.keepsAccounts] at asked
      · unfold Operation.BringsKey at h
        split at h <;> simp_all [Operation.keepsAccounts]
    exact hquiet.keyAfter_iff.symm
  | refused => exact Event.quiet_of_error.keyAfter_iff.symm
  | untouched asked empty =>
    have hquiet : Event.Quiet username ⟨c, .ok .done⟩ := by
      refine Event.quiet_of_operation (by simp [asked]) fun k h => ?_
      unfold Accounts.isEmptyObject at empty
      split at empty
      · simp [asked, Operation.BringsKey, Json.Object.get, Entries.get?] at h
      · cases empty
    exact hquiet.keyAfter_iff.symm
  | registered asked checked made free =>
    exact holdsKey_registered hs asked checked made free username key
  | amended asked checked found made =>
    exact holdsKey_amended hs asked checked found made username key
  | dismissed asked found => exact holdsKey_dismissed hs asked found username key

end Step

/-! ## The rule -/

variable {s : Store} {events : List Event}

theorem Course.holdsKey_iff (h : Course {} events s) (username key : String) :
    HoldsKey s.users username key ↔
      ∃ given, CurrentKey username given events ∧ Text.lower given = key := by
  induction h generalizing key with
  | nil => simp [HoldsKey, CurrentKey.not_nil]
  | @cons past t c before ih =>
    have hs : Accounts.Distinct t.users := (before.reachable .empty).distinct
    rw [(c.accountEffect t).holdsKey_iff hs, ih]
    simp only [Event.KeyAfter, CurrentKey.cons_iff, or_and_right, exists_or, ← exists_and_left,
      and_assoc]
    exact Iff.rfl

namespace Accounts
variable {username : String} {k : Json}

theorem authenticate_str (hs : Accounts.Distinct s.users) (username text : String) :
    ∃ b, authenticate s username (.str text) = .ok b ∧
      (b = true ↔ text ≠ "" ∧ HoldsKey s.users username (Text.lower text)) := by
  by_cases hempty : text = ""
  · subst hempty
    exact ⟨false, rfl, by simp⟩
  · have htext : authenticate s username (.str text) =
        (s.userNamed? username).elim (.ok false) fun u =>
          .ok (decide (u.key = Text.lower text)) := by
      unfold authenticate
      split
      · simp_all [Json.text?]
      · simp_all [Json.text?]
      · rename_i given _ hgiven
        cases hgiven
        cases s.userNamed? username <;> rfl
    rw [htext]
    cases hfound : s.userNamed? username with
    | none =>
      refine ⟨false, rfl, ?_⟩
      simp only [Bool.false_eq_true, false_iff, not_and]
      rintro - ⟨u, hu, hname, _⟩
      rw [hs.userNamed?_iff.mpr ⟨hu, hname⟩] at hfound
      cases hfound
    | some u =>
      obtain ⟨hu, rfl⟩ := Store.found_name hfound
      exact ⟨_, rfl, by simp [hs.holdsKey_iff hu, hempty]⟩

theorem authenticate_unpaired (username before : String) (half : Surrogate) (after : RawText) :
    authenticate s username (.unpaired before half after) =
      if s.hasUser username then breakDown .notEncodable else .ok false := by
  cases hfound : s.userNamed? username with
  | none => simp [authenticate, Json.text?, Store.hasUser, hfound]
  | some u =>
    simp only [authenticate, Json.text?, Store.hasUser, hfound]
    rfl

theorem authenticate_other (h : k.text? = none) (username : String) :
    authenticate s username k = .ok false := by
  simp [authenticate, h]

theorem authenticate_cases (hs : Accounts.Distinct s.users) (username : String) (k : Json) :
    (∃ b, authenticate s username k = .ok b ∧ (b = true ↔
        ∃ text, k = .str text ∧ text ≠ "" ∧ HoldsKey s.users username (Text.lower text)) ∧
      ¬ (s.hasUser username ∧ ∃ t, k = .ofText t ∧ t.utf8? = none)) ∨
    authenticate s username k = breakDown .notEncodable ∧ s.hasUser username ∧
      ∃ t, k = .ofText t ∧ t.utf8? = none := by
  cases htext : k.text? with
  | none =>
    have hother : ∀ t, k ≠ .ofText t := by
      rintro t rfl
      simp at htext
    refine .inl ⟨false, authenticate_other htext username, ?_, fun ⟨_, t, ht, _⟩ => hother t ht⟩
    simp only [Bool.false_eq_true, false_iff, not_exists, not_and]
    exact fun text h => absurd h (hother (.text text))
  | some t =>
    obtain rfl := Json.text?_eq_some.mp htext
    cases t with
    | text text =>
      obtain ⟨b, hb, hiff⟩ := authenticate_str hs username text
      refine .inl ⟨b, hb, hiff.trans (by simp [Json.ofText]), ?_⟩
      rintro ⟨_, t, ht, hnone⟩
      rw [← Json.ofText_inj.mp ht] at hnone
      cases hnone
    | unpaired before half after =>
      by_cases huser : s.hasUser username
      · refine .inr ⟨?_, huser, _, rfl, rfl⟩
        rw [Json.ofText, authenticate_unpaired, if_pos huser]
      · refine .inl ⟨false, ?_, by simp [Json.ofText], fun h => huser h.1⟩
        rw [Json.ofText, authenticate_unpaired, if_neg huser]

end Accounts

/-- Authentication accepts the current key of the account and nothing else: whatever calls have led
to a store, an account of a name exists exactly if there is a current key for the name, there is
then just one, and a value authenticates the name if it is a text, not empty, with the lower case of
that key. Only a text without a UTF-8 form, offered for a name that has an account, is not answered.
-/
theorem authenticates_current_key {allowed : Call → Store → Prop} (h : Reachable allowed s) :
    (∃ events, Course {} events s) ∧ ∀ events, Course {} events s → ∀ username,
      (s.hasUser username ↔ ∃! key, CurrentKey username key events) ∧
      ∀ (c : Call) (k : Json), c.operation = .authenticate username k →
        (c.result s = .ok (.answer true) ↔
          s.hasUser username ∧ ∃ key text, CurrentKey username key events ∧
            k = .str text ∧ text ≠ "" ∧ Text.lower text = Text.lower key) ∧
        (c.result s = breakDown .notEncodable ↔
          s.hasUser username ∧ ∃ t, k = .ofText t ∧ t.utf8? = none) ∧
        (c.result s = .ok (.answer true) ∨ c.result s = breakDown .notEncodable ∨
          c.result s = .ok (.answer false)) := by
  refine ⟨h.course, fun events hcourse username => ⟨?_, fun c k asked => ?_⟩⟩
  · rw [Store.hasUser_iff]
    constructor
    · rintro ⟨u, hu, hname⟩
      obtain ⟨key, hkey, _⟩ := (hcourse.holdsKey_iff username u.key).mp ⟨u, hu, hname, rfl⟩
      exact ⟨key, hkey, fun other hother => hother.eq hkey⟩
    · rintro ⟨key, hkey, _⟩
      obtain ⟨u, hu, hname, _⟩ := (hcourse.holdsKey_iff username _).mpr ⟨key, hkey, rfl⟩
      exact ⟨u, hu, hname⟩
  · have hresult : c.result s = (Accounts.authenticate s username k).map .answer := by
      simp only [Call.result, Call.run, asked, Operation.run, Operation.reading]
    have hcurrent : (∃ text, k = .str text ∧ text ≠ "" ∧
        HoldsKey s.users username (Text.lower text)) ↔
          s.hasUser username ∧ ∃ key text, CurrentKey username key events ∧
            k = .str text ∧ text ≠ "" ∧ Text.lower text = Text.lower key := by
      constructor
      · rintro ⟨text, rfl, hne, hholds⟩
        obtain ⟨key, hkey, hlower⟩ := (hcourse.holdsKey_iff username _).mp hholds
        obtain ⟨u, hu, hname, _⟩ := hholds
        exact ⟨Store.hasUser_iff.mpr ⟨u, hu, hname⟩, key, text, hkey, rfl, hne, hlower.symm⟩
      · rintro ⟨_, key, text, hkey, rfl, hne, hlower⟩
        exact ⟨text, rfl, hne, (hcourse.holdsKey_iff username _).mpr ⟨key, hkey, hlower.symm⟩⟩
    rw [hresult, ← hcurrent]
    rcases Accounts.authenticate_cases h.distinct username k with
      ⟨b, hb, hiff, hfits⟩ | ⟨hb, hbreaks⟩
    · rw [hb, ← hiff]
      refine ⟨by simp [Except.map], by simp [Except.map, hfits, breakDown], ?_⟩
      cases b
      · exact .inr (.inr rfl)
      · exact .inl rfl
    · obtain ⟨huser, t, rfl, hnone⟩ := hbreaks
      rw [hb]
      refine ⟨?_, iff_of_true rfl ⟨huser, t, rfl, hnone⟩, .inr (.inl rfl)⟩
      refine iff_of_false (by simp [Except.map, breakDown]) ?_
      rintro ⟨text, htext, _⟩
      rw [Json.ofText_inj.mp (show Json.ofText t = .ofText (.text text) from htext)] at hnone
      cases hnone

namespace Sample

def enrolled : Store :=
  (enrol 2 "bert" "bert@mail.org").after ((enrol 1 "anna" "anna@mail.org").after {})

/-- The name of an account that ended is taken again, with another key. -/
def succeed : Call := call 7 (.createUser (.obj [("username", .str "bert"),
  ("email", .str "bert@post.org"), ("salt", .str "5A"), ("key", .str "C4")]))

def turnover : List Event :=
  [succeed.event (leave.after enrolled), leave.event enrolled,
    (enrol 2 "bert" "bert@mail.org").event ((enrol 1 "anna" "anna@mail.org").after {}),
    (enrol 1 "anna" "anna@mail.org").event {}]

def attempt (key : RawText) : Call := call 8 (.authenticate "bert" (.ofText key))

end Sample

/-- The key of the account that has the name now is accepted, that of the former one is not. -/
theorem authenticates_current_key_sample :
    Reachable (fun _ _ => True) (Sample.succeed.after (Sample.leave.after Sample.enrolled)) ∧
    Course {} Sample.turnover (Sample.succeed.after (Sample.leave.after Sample.enrolled)) ∧
    CurrentKey "bert" "C4" Sample.turnover ∧
    (Sample.attempt "c4").result (Sample.succeed.after (Sample.leave.after Sample.enrolled)) =
      .ok (.answer true) ∧
    (Sample.attempt "0b").result (Sample.succeed.after (Sample.leave.after Sample.enrolled)) =
      .ok (.answer false) := by
  have hcourse : Course {} Sample.turnover
      (Sample.succeed.after (Sample.leave.after Sample.enrolled)) :=
    (((Course.nil.cons _).cons _).cons _).cons _
  have hrun := hcourse.reachable .empty
  have hkey : CurrentKey "bert" "C4" Sample.turnover :=
    ⟨[], _, _, rfl, ⟨⟨_, rfl⟩, rfl, rfl⟩, fun _ h => absurd h List.not_mem_nil⟩
  obtain ⟨hname, hanswers⟩ := (authenticates_current_key hrun).2 _ hcourse "bert"
  obtain ⟨haccepted, _⟩ := hanswers (Sample.attempt "c4") (.str "c4") rfl
  obtain ⟨hrefused, hbreaks, hall⟩ := hanswers (Sample.attempt "0b") (.str "0b") rfl
  refine ⟨hrun, hcourse, hkey, ?_, ?_⟩
  · exact haccepted.mpr ⟨hname.mpr ⟨"C4", hkey, fun other hother => hother.eq hkey⟩, "C4", "c4",
      hkey, rfl, by decide, by decide⟩
  · rcases hall with htrue | hbroken | hfalse
    · obtain ⟨_, key, text, hcurrent, htext, _, hlower⟩ := hrefused.mp htrue
      cases htext
      cases hcurrent.eq hkey
      exact absurd hlower (by decide)
    · obtain ⟨_, t, ht, hnone⟩ := hbreaks.mp hbroken
      rw [← Json.ofText_inj.mp (show Json.ofText "0b" = .ofText t from ht)] at hnone
      cases hnone
    · exact hfalse

/-- A key of half a surrogate pair is another key than that of the account, and is not refused. -/
theorem authentication_breaks_on_unpaired_key :
    Reachable (fun _ _ => True) (Sample.succeed.after (Sample.leave.after Sample.enrolled)) ∧
    Store.hasUser (Sample.succeed.after (Sample.leave.after Sample.enrolled)) "bert" ∧
    (Sample.attempt Sample.half).operation = .authenticate "bert" (.ofText Sample.half) ∧
    (Sample.attempt Sample.half).result
        (Sample.succeed.after (Sample.leave.after Sample.enrolled)) =
      breakDown .notEncodable := by
  have hcourse : Course {} Sample.turnover
      (Sample.succeed.after (Sample.leave.after Sample.enrolled)) :=
    (((Course.nil.cons _).cons _).cons _).cons _
  exact ⟨hcourse.reachable .empty, by decide, rfl, rfl⟩

end FileShare

import FileShare.Proofs.Bodies
import FileShare.Proofs.Runs.Courses
import FileShare.Proofs.Sorting

/-! # Keys stay secret

Only an authentication reads keys. Whatever else is asked for, a world without its keys answers as
the world itself does, and it goes over to the same world without keys. So two worlds that differ in
nothing but keys cannot be told apart, however long one asks.
-/
namespace FileShare

/-! ## Worlds without keys -/

def User.withoutKey (u : User) : User := { u with key := "" }

def Store.withoutKeys (s : Store) : Store := { s with users := s.users.map User.withoutKey }

def World.withoutKeys (w : World) : World := { w with store := w.store.withoutKeys }

/-- Nothing but keys makes the worlds different. -/
def World.SameButKeys (v w : World) : Prop := v.withoutKeys = w.withoutKeys

namespace Store
variable (s : Store)

theorem withoutKeys_withoutKeys : s.withoutKeys.withoutKeys = s.withoutKeys := by
  simp only [withoutKeys, List.map_map]
  rfl

@[simp] theorem userNamed?_withoutKeys (username : String) :
    s.withoutKeys.userNamed? username = (s.userNamed? username).map User.withoutKey := by
  simp only [userNamed?, withoutKeys, List.find?_map]
  rfl

@[simp] theorem hasUser_withoutKeys (username : String) :
    s.withoutKeys.hasUser username = s.hasUser username := by
  simp only [hasUser, userNamed?_withoutKeys, Option.isSome_map]

@[simp] theorem hasUserId_withoutKeys (id : String) :
    s.withoutKeys.hasUserId id = s.hasUserId id := by
  simp only [hasUserId, withoutKeys, List.any_map]
  rfl

@[simp] theorem hasNode_withoutKeys (id : String) : s.withoutKeys.hasNode id = s.hasNode id := rfl

theorem knowsAlike_withoutKeys : s.withoutKeys.KnowsAlike s where
  users := funext s.hasUser_withoutKeys
  nodes := funext s.hasNode_withoutKeys

/-! ## Writes of accounts -/

theorem addUser_withoutKeys (u : User) :
    (s.withoutKeys.addUser u).map withoutKeys = (s.addUser u).map withoutKeys := by
  have hclash : s.withoutKeys.clash? u = s.clash? u := by
    simp only [clash?, withoutKeys, List.any_map]
    rfl
  have hkeyless : User.withoutKey ∘ User.withoutKey = User.withoutKey := rfl
  unfold addUser
  rw [hclash]
  cases s.clash? u with
  | some clash => rfl
  | none => simp [Except.map, withoutKeys, hkeyless]

theorem replaceUser_withoutKeys {u v : User} (h : u.withoutKey = v.withoutKey) :
    (s.withoutKeys.replaceUser u).map withoutKeys = (s.replaceUser v).map withoutKeys := by
  have hid : u.id = v.id :=
    show u.withoutKey.id = v.withoutKey.id from congrArg User.id h
  have hemail : u.lowerEmail = v.lowerEmail :=
    show u.withoutKey.lowerEmail = v.withoutKey.lowerEmail from congrArg User.lowerEmail h
  have htaken : (s.withoutKeys.users.any fun w => w.id ≠ u.id && w.lowerEmail = u.lowerEmail) =
      s.users.any fun w => w.id ≠ v.id && w.lowerEmail = v.lowerEmail := by
    rw [hid, hemail]
    simp only [withoutKeys, List.any_map]
    rfl
  have hrows : (s.withoutKeys.users.map fun w => if w.id = u.id then u else w).map
      User.withoutKey =
        (s.users.map fun w => if w.id = v.id then v else w).map User.withoutKey := by
    simp only [withoutKeys, List.map_map]
    refine List.map_congr_left fun w _ => ?_
    have hsame : w.withoutKey.id = w.id := rfl
    simp only [Function.comp, hsame, hid]
    split
    · exact h
    · rfl
  unfold replaceUser
  rw [htaken]
  split
  · rfl
  · simp only [Except.map, withoutKeys] at hrows ⊢
    rw [hrows]

theorem removeUser_withoutKeys (u : User) :
    s.withoutKeys.removeUser u.withoutKey = (s.removeUser u).withoutKeys := by
  simp only [removeUser, withoutKeys, List.filter_map]
  rfl

/-! ## Writes of nodes -/

theorem addNode_withoutKeys (n : Node) :
    s.withoutKeys.addNode n = (s.addNode n).map withoutKeys := by
  cases n with
  | file f =>
    cases h : s.files.any fun g => g.id = f.id <;> simp only [addNode, withoutKeys, h] <;> rfl
  | metaNode m =>
    cases h : s.metas.any fun k => k.id = m.id <;> simp only [addNode, withoutKeys, h] <;> rfl

theorem replaceNode_withoutKeys (n : Node) :
    s.withoutKeys.replaceNode n = (s.replaceNode n).withoutKeys := by
  cases n <;> rfl

end Store

theorem World.withoutKeys_withoutKeys (w : World) : w.withoutKeys.SameButKeys w :=
  congrArg (World.mk · w.generator) w.store.withoutKeys_withoutKeys

/-! ## Accounts -/

namespace Accounts
variable (limits : Settings) (s : Store) (username : String)

@[simp] theorem require_withoutKeys :
    require s.withoutKeys username = (require s username).map User.withoutKey := by
  simp only [require, Store.userNamed?_withoutKeys]
  cases s.userNamed? username <;> rfl

@[simp] theorem discard_require_withoutKeys :
    discard (require s.withoutKeys username) = discard (require s username) := by
  rw [require_withoutKeys]
  cases require s username <;> rfl

theorem get_withoutKeys : get s.withoutKeys username = get s username := by
  simp only [get, require_withoutKeys]
  cases require s username <;> rfl

theorem list_withoutKeys (after : Json) :
    list limits after s.withoutKeys = list limits after s := by
  have hpublic : User.toPublic ∘ User.withoutKey = User.toPublic := rfl
  have hpage : ∀ cursor, (page limits cursor s.withoutKeys.users).map User.toPublic =
      (page limits cursor s.users).map User.toPublic := by
    intro cursor
    simp only [page, Store.withoutKeys, List.filter_map]
    rw [sortBy_map (f := User.withoutKey) fun _ _ => rfl, ← List.map_take, List.map_map, hpublic]
    rfl
  simp only [list, Store.hasUserId_withoutKeys, hpage]

theorem create_withoutKeys (now : Instant) (body : Json) (w : World) :
    (create limits now body w.withoutKeys).1 = (create limits now body w).1 ∧
      (create limits now body w.withoutKeys).2.SameButKeys (create limits now body w).2 := by
  unfold create
  cases checkNew limits body with
  | error e => exact ⟨rfl, w.withoutKeys_withoutKeys⟩
  | ok fields =>
    have hstore : w.withoutKeys.store = w.store.withoutKeys := rfl
    have hgenerator : w.withoutKeys.generator = w.generator := rfl
    generalize hu : User.ofFields (w.generator.draw now).1 fields.username fields.email fields.salt
      fields.key = u
    simp only [hstore, hgenerator, hu]
    rcases Outcome.of_map_eq_map (w.store.addUser_withoutKeys u) with
      ⟨clash, hv, hw⟩ | ⟨s, t, hv, hw, hstores⟩
    · rw [hv, hw]
      exact ⟨rfl, congrArg (World.mk · _) w.store.withoutKeys_withoutKeys⟩
    · rw [hv, hw]
      exact ⟨rfl, congrArg (World.mk · _) hstores⟩

theorem apply_withoutKey (p : Patch) (u : User) :
    (p.apply u.withoutKey).withoutKey = (p.apply u).withoutKey := by
  unfold Patch.apply
  cases p.email <;> rfl

theorem update_withoutKeys (body : Json) :
    (update limits username body s.withoutKeys).map Store.withoutKeys =
      (update limits username body s).map Store.withoutKeys := by
  unfold update
  split
  · exact congrArg Except.ok (Store.withoutKeys_withoutKeys s)
  · cases checkPatch limits body with
    | error e => rfl
    | ok patch =>
      rw [Outcome.ok_bind, Outcome.ok_bind, require_withoutKeys]
      cases require s username with
      | error e => rfl
      | ok u =>
        have hwritten := s.replaceUser_withoutKeys (apply_withoutKey patch u)
        simp only [Except.map, Outcome.ok_bind]
        rcases Outcome.of_map_eq_map hwritten with ⟨clash, hv, hw⟩ | ⟨t, t', hv, hw, hstores⟩
        · rw [hv, hw]
        · rw [hv, hw]
          exact congrArg Except.ok hstores

theorem delete_withoutKeys :
    delete username s.withoutKeys = (delete username s).map Store.withoutKeys := by
  simp only [delete, require_withoutKeys]
  cases require s username with
  | error e => rfl
  | ok u =>
    have hremoved := s.removeUser_withoutKeys u
    exact congrArg (fun t : Store => Except.ok (t.revokeGrants username)) hremoved

end Accounts

/-! ## Bodies -/

namespace Body
variable (limits : Settings) (s : Store)

@[simp] theorem checkNew_withoutKeys : checkNew limits s.withoutKeys = checkNew limits s :=
  checkNew_congr s.knowsAlike_withoutKeys limits

@[simp] theorem checkPatch_withoutKeys (kind : String) :
    checkPatch limits s.withoutKeys kind = checkPatch limits s kind :=
  checkPatch_congr s.knowsAlike_withoutKeys limits kind

end Body

/-! ## Nodes -/

@[simp] theorem Query.fetch_withoutKeys (s : Store) (p : Plan) :
    fetch s.withoutKeys p = fetch s p := rfl

namespace Nodes
variable (limits : Settings) (s : Store) (username : String)

@[simp] theorem get_withoutKeys (ids : List Json) :
    get limits username ids s.withoutKeys = get limits username ids s := by
  simp only [get, Accounts.discard_require_withoutKeys, Query.fetch_withoutKeys]

theorem search_withoutKeys (after equality patterns : Json) :
    search limits username after equality patterns s.withoutKeys =
      search limits username after equality patterns s := by
  simp only [search, Store.hasNode_withoutKeys, Accounts.discard_require_withoutKeys,
    Query.fetch_withoutKeys]

theorem update_withoutKeys (now : Instant) (id body : Json) :
    update limits now username id body s.withoutKeys =
      (update limits now username id body s).map Store.withoutKeys := by
  simp only [update, Accounts.discard_require_withoutKeys, Query.fetch_withoutKeys,
    Body.checkPatch_withoutKeys]
  cases Identifier.parse (some "node_id") id with
  | error e => rfl
  | ok target =>
    simp only [Outcome.ok_bind]
    split
    · rfl
    · cases discard (Accounts.require s username) with
      | error e => rfl
      | ok u =>
        simp only [Outcome.ok_bind]
        cases Query.fetch s (Query.editPlan target username) with
        | error e => rfl
        | ok found =>
          cases found with
          | nil => rfl
          | cons n rest =>
            simp only [Outcome.ok_bind]
            cases Body.checkPatch limits s n.kind body with
            | error e => rfl
            | ok patch =>
              simp only [Outcome.ok_bind]
              cases patch.encode with
              | error e => rfl
              | ok written => exact congrArg Except.ok (s.replaceNode_withoutKeys _)

theorem delete_withoutKeys (ids : List Json) :
    delete limits username ids s.withoutKeys =
      (delete limits username ids s).map Store.withoutKeys := by
  simp only [delete, Accounts.discard_require_withoutKeys]
  cases checkBatch limits ids with
  | error e => rfl
  | ok _ =>
    cases Identifier.parseAll (some "node_ids") ids with
    | error e => rfl
    | ok named => cases discard (Accounts.require s username) <;> rfl

theorem insert_withoutKeys (now : Instant) (id : String) (fields : Body.NewNode RawText) :
    insert s.withoutKeys id username now fields =
      (insert s id username now fields).map Store.withoutKeys := by
  unfold insert
  cases discard fields.name.encode with
  | error e => rfl
  | ok _ =>
    cases fields.encode with
    | error e =>
      simp only [Outcome.ok_bind]
      have hfiles : s.withoutKeys.files = s.files := rfl
      rw [hfiles]
      split <;> rfl
    | ok row =>
      simp only [Outcome.ok_bind, Store.addNode_withoutKeys]
      cases s.addNode (ofBody id username now row) <;> rfl

theorem create_withoutKeys (now : Instant) (body : Json) (w : World) :
    create limits now username body w.withoutKeys =
      ((create limits now username body w).1,
        (create limits now username body w).2.withoutKeys) := by
  have hstore : w.withoutKeys.store = w.store.withoutKeys := rfl
  have hgenerator : w.withoutKeys.generator = w.generator := rfl
  simp only [create, hstore, hgenerator, Body.checkNew_withoutKeys,
    Accounts.discard_require_withoutKeys, insert_withoutKeys]
  split
  · rfl
  · cases insert w.store (w.generator.draw now).1 username now _ with
    | error e => rfl
    | ok t =>
      simp only [Except.map, get_withoutKeys]
      split <;> rfl

end Nodes

/-! ## Operations -/

def Operation.isAuthentication : Operation → Bool
  | authenticate _ _ => true
  | _ => false

namespace Operation
variable (limits : Settings) (now : Instant) (w : World)

theorem writing_withoutKeys {x y : Except Failure Store}
    (h : x.map Store.withoutKeys = y.map Store.withoutKeys) :
    (writing w.withoutKeys x).1 = (writing w y).1 ∧
      (writing w.withoutKeys x).2.SameButKeys (writing w y).2 := by
  rcases Outcome.of_map_eq_map h with ⟨e, rfl, rfl⟩ | ⟨s, t, rfl, rfl, hstores⟩
  · exact ⟨rfl, w.withoutKeys_withoutKeys⟩
  · exact ⟨rfl, congrArg (World.mk · w.generator) hstores⟩

theorem reading_withoutKeys {α : Type} (reply : α → Reply) (x : Except Failure α) :
    (reading w.withoutKeys reply x).1 = (reading w reply x).1 ∧
      (reading w.withoutKeys reply x).2.SameButKeys (reading w reply x).2 :=
  ⟨rfl, w.withoutKeys_withoutKeys⟩

theorem map_withoutKeys {x y : Except Failure Store} (h : x = y.map Store.withoutKeys) :
    x.map Store.withoutKeys = y.map Store.withoutKeys := by
  cases y with
  | error e => rw [h]; rfl
  | ok t => rw [h]; exact congrArg Except.ok t.withoutKeys_withoutKeys

theorem run_withoutKeys {operation : Operation} (h : operation.isAuthentication = false) :
    (operation.run limits now w.withoutKeys).1 = (operation.run limits now w).1 ∧
      (operation.run limits now w.withoutKeys).2.SameButKeys (operation.run limits now w).2 := by
  have hstore : w.withoutKeys.store = w.store.withoutKeys := rfl
  cases operation with
  | listUsers after =>
    simp only [run, hstore, Accounts.list_withoutKeys]
    exact reading_withoutKeys w _ _
  | getUser username =>
    simp only [run, hstore, Accounts.get_withoutKeys]
    exact reading_withoutKeys w _ _
  | createUser body =>
    obtain ⟨hanswer, hworlds⟩ := Accounts.create_withoutKeys limits now body w
    exact ⟨congrArg (Except.map Reply.user) hanswer, hworlds⟩
  | updateUser username body =>
    exact writing_withoutKeys w (Accounts.update_withoutKeys limits w.store username body)
  | deleteUser username =>
    exact writing_withoutKeys w (map_withoutKeys (Accounts.delete_withoutKeys w.store username))
  | authenticate username key => cases h
  | getNodes username ids =>
    simp only [run, hstore, Nodes.get_withoutKeys]
    exact reading_withoutKeys w _ _
  | searchNodes username after equality patterns =>
    simp only [run, hstore, Nodes.search_withoutKeys]
    exact reading_withoutKeys w _ _
  | createNode username body =>
    simp only [run, Nodes.create_withoutKeys]
    exact ⟨trivial, World.withoutKeys_withoutKeys _⟩
  | updateNode username id body =>
    exact writing_withoutKeys w
      (map_withoutKeys (Nodes.update_withoutKeys limits w.store username now id body))
  | deleteNodes username ids =>
    exact writing_withoutKeys w
      (map_withoutKeys (Nodes.delete_withoutKeys limits w.store username ids))

/-- What is asked of two worlds that differ in keys only is answered in the same way, and the worlds
that follow differ in keys only. -/
theorem run_sameButKeys {operation : Operation} (h : operation.isAuthentication = false)
    {v w : World} (hsame : v.SameButKeys w) :
    (operation.run limits now v).1 = (operation.run limits now w).1 ∧
      (operation.run limits now v).2.SameButKeys (operation.run limits now w).2 := by
  obtain ⟨hv, hv'⟩ := run_withoutKeys limits now v h
  obtain ⟨hw, hw'⟩ := run_withoutKeys limits now w h
  rw [show v.withoutKeys = w.withoutKeys from hsame] at hv hv'
  exact ⟨hv.symm.trans hw, Eq.trans (Eq.symm hv') hw'⟩

end Operation

/-! ## Runs -/

structure Request where
  limits : Settings
  now : Instant
  operation : Operation

/-- Requests in turn: what each of them is answered, and the world at the end. -/
def World.serve (w : World) : List Request → List (Except Failure Reply) × World
  | [] => ([], w)
  | r :: rest =>
    let (outcome, next) := r.operation.run r.limits r.now w
    let (outcomes, last) := next.serve rest
    (outcome :: outcomes, last)

/-- Requests among which no key is tried are answered in the same way by any two worlds that differ
in keys only, and the worlds at the end differ in keys only. -/
theorem keys_stay_secret {v w : World} (h : v.SameButKeys w) {requests : List Request}
    (hasked : ∀ r ∈ requests, r.operation.isAuthentication = false) :
    (v.serve requests).1 = (w.serve requests).1 ∧
      (v.serve requests).2.SameButKeys (w.serve requests).2 := by
  induction requests generalizing v w with
  | nil => exact ⟨rfl, h⟩
  | cons r rest ih =>
    obtain ⟨hfirst, hrest⟩ := List.forall_mem_cons.mp hasked
    obtain ⟨hanswer, hnext⟩ := Operation.run_sameButKeys r.limits r.now hfirst h
    obtain ⟨hanswers, hlast⟩ := ih hnext hrest
    exact ⟨congrArg₂ List.cons hanswer hanswers, hlast⟩

namespace Sample

/-- The accounts have other keys. -/
def rekeyed : Store := { shelf with
  users := [.ofFields "5f5e10000000000007000001" "anna" "anna@mail.org" "5a" "f7",
    .ofFields "5f5e10000000000007000002" "bert" "bert@mail.org" "5a" "00"] }

/-- New keys are set, an account ends, and its name is taken again. -/
def errands : List Request :=
  [move, leave, enrol 7 "Anna" "other@mail.org", rejoin, call 8 (.listUsers .null)].map
    fun c => ⟨c.limits, c.now, c.operation⟩

end Sample

theorem keys_stay_secret_sample :
    Sample.shelf.users.map User.key ≠ Sample.rekeyed.users.map User.key ∧
    (World.mk Sample.shelf ⟨7, 8⟩).SameButKeys ⟨Sample.rekeyed, ⟨7, 8⟩⟩ ∧
    (∀ r ∈ Sample.errands, r.operation.isAuthentication = false) ∧
    ((World.mk Sample.shelf ⟨7, 8⟩).serve Sample.errands).1 =
      ((World.mk Sample.rekeyed ⟨7, 8⟩).serve Sample.errands).1 ∧
    ((World.mk Sample.shelf ⟨7, 8⟩).serve Sample.errands).2.SameButKeys
      ((World.mk Sample.rekeyed ⟨7, 8⟩).serve Sample.errands).2 := by
  have hsame : (World.mk Sample.shelf ⟨7, 8⟩).SameButKeys ⟨Sample.rekeyed, ⟨7, 8⟩⟩ := rfl
  have hasked : ∀ r ∈ Sample.errands, r.operation.isAuthentication = false := by decide
  exact ⟨by decide, hsame, hasked, keys_stay_secret hsame hasked⟩

end FileShare

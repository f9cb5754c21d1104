import FileShare.Operation
import FileShare.Proofs.Bodies
import FileShare.Proofs.Runs.Writes

/-! # Calls and runs

A call is an operation with all that it runs under. Whatever it is asked for, a call does one of
seven things to the store; the list says what each of them presupposes. A run is a sequence of
calls from the empty store. Every call brings its own settings, clock and generator, so a run may
go through changes of the settings and through any number of processes.
-/
namespace FileShare

structure Call where
  limits : Settings
  now : Instant
  generator : Generator
  operation : Operation

namespace Call

def run (c : Call) (s : Store) : Except Failure Reply × World :=
  c.operation.run c.limits c.now ⟨s, c.generator⟩

def result (c : Call) (s : Store) : Except Failure Reply := (c.run s).1

def after (c : Call) (s : Store) : Store := (c.run s).2.store

/-- The identifier that the call gives to the row that it makes, if it makes one. -/
def drawn (c : Call) : String := (c.generator.draw c.now).1

/-- The identifier that the call draws for an account or for a node is not one of another. -/
def Fresh (c : Call) (s : Store) : Prop :=
  (match c.operation with
    | .createUser _ => s.hasUserId c.drawn
    | .createNode _ _ => s.hasNode c.drawn
    | _ => false) = false

instance (c : Call) (s : Store) : Decidable (c.Fresh s) := inferInstanceAs (Decidable (_ = _))

theorem Fresh.not_hasNode {c : Call} {s : Store} (h : c.Fresh s) {username : String} {body : Json}
    (asked : c.operation = .createNode username body) : ¬ s.hasNode c.drawn := by
  simpa [Fresh, asked] using h

end Call

/-- The stores that runs of allowed calls lead to. -/
inductive Reachable (allowed : Call → Store → Prop) : Store → Prop
  | empty : Reachable allowed {}
  | call {c : Call} {s : Store} (run : Reachable allowed s) (next : allowed c s) :
      Reachable allowed (c.after s)

namespace Accounts
variable {limits : Settings} {username : String} {body : Json} {s t : Store}

theorem update_cases (h : update limits username body s = .ok t) :
    isEmptyObject body ∧ t = s ∨ ∃ patch u, checkPatch limits body = .ok patch ∧
      s.userNamed? username = some u ∧
      (∀ w ∈ s.users, w.id ≠ (patch.apply u).id → w.lowerEmail ≠ (patch.apply u).lowerEmail) ∧
      t = { s with
        users := s.users.map fun w => if w.id = (patch.apply u).id then patch.apply u else w } := by
  unfold update at h
  split at h
  · rename_i hempty
    cases h
    exact .inl ⟨hempty, rfl⟩
  · obtain ⟨patch, hpatch, h⟩ := Outcome.bind_eq_ok.mp h
    obtain ⟨u, hu, h⟩ := Outcome.bind_eq_ok.mp h
    cases hwritten : s.replaceUser (patch.apply u) with
    | error clash => simp [hwritten, Except.mapError] at h
    | ok t' =>
      simp only [hwritten, Except.mapError, Except.ok.injEq] at h
      subst h
      obtain ⟨hfree, rfl⟩ := Store.replaceUser_eq_ok.mp hwritten
      exact .inr ⟨patch, u, hpatch, require_eq_ok.mp hu, hfree, rfl⟩

theorem delete_eq_ok :
    delete username s = .ok t ↔
      ∃ u, s.userNamed? username = some u ∧ (s.removeUser u).revokeGrants username = t := by
  simp only [delete, Outcome.bind_eq_ok, Outcome.pure_eq_ok, require_eq_ok]

end Accounts

theorem Nodes.checkBatch_eq_ok {limits : Settings} {ids : List Json} :
    checkBatch limits ids = .ok () ↔ (ids.length : Int) ≤ limits.maxItemsPerRequest := by
  unfold checkBatch
  split
  · rename_i hmany
    simpa using hmany
  · rename_i hfew
    simpa using hfew

theorem Nodes.update_cases {limits : Settings} {now : Instant} {username : String} {id body : Json}
    {s t : Store} (h : update limits now username id body s = .ok t) :
    Accounts.isEmptyObject body ∧ t = s ∨ ∃ target n rest patch,
      Identifier.parse (some "node_id") id = .ok target ∧ s.hasUser username ∧
      Query.fetch s (Query.editPlan target username) = .ok (n :: rest) ∧
      Body.checkPatch limits s n.kind body = .ok patch.raw ∧
      t = s.replaceNode (applyPatch now patch n) := by
  obtain ⟨target, hparse, h⟩ := Outcome.bind_eq_ok.mp h
  split at h
  · rename_i hempty
    cases h
    exact .inl ⟨hempty, rfl⟩
  · obtain ⟨_, huser, h⟩ := Outcome.bind_eq_ok.mp h
    obtain ⟨found, hfound, h⟩ := Outcome.bind_eq_ok.mp h
    cases found with
    | nil => simp at h
    | cons n rest =>
      obtain ⟨given, hgiven, h⟩ := Outcome.bind_eq_ok.mp h
      obtain ⟨patch, hpatch, h⟩ := Outcome.bind_eq_ok.mp h
      cases h
      exact .inr ⟨target, n, rest, patch, hparse, Accounts.discard_require_eq_ok.mp huser, hfound,
        Body.Patch.encode_eq_ok.mp hpatch ▸ hgiven, rfl⟩

/-- A new node is stored exactly if its texts can be, and the identifier is none of its table. -/
theorem Nodes.insert_eq_ok {s t : Store} {id owner : String} {now : Instant}
    {fields : Body.NewNode RawText} :
    insert s id owner now fields = .ok t ↔
      ∃ row : Body.NewNode String, fields = row.raw ∧
        s.addNode (ofBody id owner now row) = some t := by
  simp only [insert, Outcome.bind_eq_ok, Outcome.discard_eq_ok]
  constructor
  · rintro ⟨_, _, h⟩
    split at h
    · split at h <;> simp at h
    · rename_i row hrow
      split at h
      · simp at h
      · rename_i hadded
        cases h
        exact ⟨row, Body.NewNode.encode_eq_ok.mp hrow, hadded⟩
  · rintro ⟨row, rfl, hadded⟩
    refine ⟨⟨⟩, ⟨row.name, by rw [Body.NewNode.name_raw, RawText.encode]⟩, ?_⟩
    simp only [Body.NewNode.encode_eq_ok.mpr rfl, hadded]
    rfl

/-- A new node is not stored because its identifier is taken or because of its texts. -/
theorem Nodes.insert_fails (s : Store) (id owner : String) (now : Instant)
    (fields : Body.NewNode RawText) :
    Outcome.FailsOnly (insert s id owner now fields) fun e =>
      (e = .broken .identifierTaken ∧ s.hasNode id) ∨
        (e = .broken .notEncodable ∧ ∀ row : Body.NewNode String, fields ≠ row.raw) := by
  have hspelled : fields.encode = .error (.broken .notEncodable) →
      ∀ row : Body.NewNode String, fields ≠ row.raw := by
    rintro hfails row rfl
    rw [Body.NewNode.encode_eq_ok.mpr rfl] at hfails
    cases hfails
  cases hrow : fields.encode with
  | error e =>
    obtain rfl := Body.NewNode.encode_fails fields e hrow
    have hunfit := hspelled hrow
    refine Outcome.FailsOnly.bind (fun e he => ?_) fun _ _ => ?_
    · cases hname : fields.name.encode with
      | ok name =>
        rw [hname] at he
        cases he
      | error e' =>
        rw [hname] at he
        cases he
        exact .inr ⟨RawText.encode_fails _ _ hname, hunfit⟩
    · simp only [hrow]
      split
      · rename_i hheld
        refine Outcome.failsOnly_breakDown.mpr (.inl ⟨rfl, ?_⟩)
        exact Bool.or_eq_true_iff.mpr (.inl hheld)
      · exact Outcome.failsOnly_error.mpr (.inr ⟨rfl, hunfit⟩)
  | ok row =>
    obtain rfl := Body.NewNode.encode_eq_ok.mp hrow
    simp only [insert, Body.NewNode.name_raw, RawText.encode, hrow]
    split
    · rename_i hheld
      refine Outcome.failsOnly_breakDown.mpr (.inl ⟨rfl, ?_⟩)
      simpa using Store.hasNode_of_addNode hheld
    · exact Outcome.failsOnly_pure _

/-- What a call may do to a store, and when. -/
inductive Effect (c : Call) (s : Store) : Store → Prop
  | nothing : Effect c s s
  | register {body : Json} {fields : Accounts.NewUser} {u : User}
      (asked : c.operation = .createUser body)
      (checked : Accounts.checkNew c.limits body = .ok fields)
      (made : u = .ofFields c.drawn fields.username fields.email fields.salt fields.key)
      (free : s.clash? u = none) : Effect c s { s with users := s.users ++ [u] }
  | amend {username : String} {body : Json} {patch : Accounts.Patch} {u v : User}
      (asked : c.operation = .updateUser username body)
      (checked : Accounts.checkPatch c.limits body = .ok patch)
      (found : s.userNamed? username = some u)
      (made : v = patch.apply u)
      (free : ∀ w ∈ s.users, w.id ≠ v.id → w.lowerEmail ≠ v.lowerEmail) :
      Effect c s { s with users := s.users.map fun w => if w.id = v.id then v else w }
  | dismiss {username : String} {u : User}
      (asked : c.operation = .deleteUser username)
      (found : s.userNamed? username = some u) :
      Effect c s ((s.removeUser u).revokeGrants username)
  | create {username : String} {body : Json} {fields : Body.NewNode String} {t : Store}
      (asked : c.operation = .createNode username body)
      (checked : Body.checkNew c.limits s body = .ok fields.raw)
      (known : s.hasUser username)
      (written : s.addNode (Nodes.ofBody c.drawn username c.now fields) = some t) : Effect c s t
  | change {username target : String} {id body : Json} {patch : Body.Patch String} {n : Node}
      {rest : List Node}
      (asked : c.operation = .updateNode username id body)
      (named : Identifier.parse (some "node_id") id = .ok target)
      (known : s.hasUser username)
      (found : Query.fetch s (Query.editPlan target username) = .ok (n :: rest))
      (checked : Body.checkPatch c.limits s n.kind body = .ok patch.raw) :
      Effect c s (s.replaceNode (Nodes.applyPatch c.now patch n))
  | remove {username : String} {ids : List Json} {named : List String}
      (asked : c.operation = .deleteNodes username ids)
      (parsed : Identifier.parseAll (some "node_ids") ids = .ok named)
      (known : s.hasUser username) :
      Effect c s ((s.removeOwned username named).pullFromContents (s.ownedAmong username named))

def Nodes.readBack (limits : Settings) (username id : String) (s : Store) :
    Except Failure Node := do
  match ← get limits username [.str id] s with
  | [] => reject (.someNotFound "node_ids")
  | n :: _ => return n

/-- What a call for a new node may answer, together with the store that it leaves: it is refused,
the node cannot be stored, or it is stored and then read back. -/
inductive Creation (c : Call) (s : Store) (username : String) (body : Json) :
    Except Failure Reply → Store → Prop
  | refused {e : Failure}
      (unmet : ∀ fields, Body.checkNew c.limits s body = .ok fields → ¬ s.hasUser username) :
      Creation c s username body (.error e) s
  | unstored {fields : Body.NewNode RawText} {e : Failure}
      (checked : Body.checkNew c.limits s body = .ok fields) (known : s.hasUser username)
      (failed : Nodes.insert s c.drawn username c.now fields = .error e) :
      Creation c s username body (.error e) s
  | stored {fields : Body.NewNode String} {t : Store}
      (checked : Body.checkNew c.limits s body = .ok fields.raw)
      (known : s.hasUser username)
      (written : s.addNode (Nodes.ofBody c.drawn username c.now fields) = some t) :
      Creation c s username body ((Nodes.readBack c.limits username c.drawn t).map .node) t

theorem Operation.writing_eq_ok {w : World} {result : Except Failure Store} {reply : Reply}
    (h : (writing w result).1 = .ok reply) : (∃ t, result = .ok t) ∧ reply = .done := by
  cases result <;> cases h
  exact ⟨⟨_, rfl⟩, rfl⟩

namespace Call
variable {c : Call} {s : Store}

theorem effect_writing {result : Except Failure Store} (h : ∀ t, result = .ok t → Effect c s t) :
    Effect c s (Operation.writing ⟨s, c.generator⟩ result).2.store := by
  cases result with
  | ok t => exact h t rfl
  | error e => exact .nothing

theorem effect_createUser {body : Json} (h : c.operation = .createUser body) :
    Effect c s (c.after s) := by
  simp only [after, run, h, Operation.run, Accounts.create]
  cases hfields : Accounts.checkNew c.limits body with
  | error e => exact .nothing
  | ok fields =>
    cases hadd : s.addUser (.ofFields c.drawn fields.username fields.email fields.salt
        fields.key) with
    | error clash =>
      simp only [drawn] at hadd
      simp only [hadd]
      exact .nothing
    | ok t =>
      obtain ⟨hfree, hwritten⟩ := Store.addUser_eq_ok.mp hadd
      have hregister := Effect.register h hfields rfl hfree
      simp only [drawn] at hadd hwritten hregister
      simp only [hadd]
      exact hwritten ▸ hregister

theorem effect_updateUser {username : String} {body : Json}
    (h : c.operation = .updateUser username body) : Effect c s (c.after s) := by
  simp only [after, run, h, Operation.run]
  refine effect_writing fun t hresult => ?_
  rcases Accounts.update_cases hresult with ⟨_, rfl⟩ | ⟨patch, u, hpatch, hfound, hfree, rfl⟩
  · exact .nothing
  · exact .amend h hpatch hfound rfl hfree

theorem effect_deleteUser {username : String} (h : c.operation = .deleteUser username) :
    Effect c s (c.after s) := by
  simp only [after, run, h, Operation.run]
  refine effect_writing fun t hresult => ?_
  obtain ⟨u, hfound, rfl⟩ := Accounts.delete_eq_ok.mp hresult
  exact .dismiss h hfound

theorem creation {username : String} {body : Json} (h : c.operation = .createNode username body) :
    Creation c s username body (c.result s) (c.after s) := by
  simp only [result, after, run, h, Operation.run, Nodes.create]
  split
  · rename_i e hunmet
    refine .refused fun fields hfields hknown => ?_
    have huser : discard (Accounts.require s username) = .ok () :=
      Accounts.discard_require_eq_ok.mpr hknown
    rw [hfields, Outcome.ok_bind, huser] at hunmet
    cases hunmet
  · rename_i fields hchecked
    obtain ⟨_, hfields, hchecked⟩ := Outcome.bind_eq_ok.mp hchecked
    obtain ⟨_, huser, hchecked⟩ := Outcome.bind_eq_ok.mp hchecked
    cases hchecked
    have hknown := Accounts.discard_require_eq_ok.mp huser
    cases hinserted : Nodes.insert s c.drawn username c.now fields with
    | error e =>
      have hunstored := Creation.unstored hfields hknown hinserted
      simp only [drawn] at hinserted
      simp only [hinserted]
      exact hunstored
    | ok t =>
      obtain ⟨row, rfl, hadded⟩ := Nodes.insert_eq_ok.mp hinserted
      have hstored := Creation.stored hfields hknown hadded
      simp only [drawn, Nodes.readBack] at hinserted hstored
      simp only [hinserted]
      rcases hread : Nodes.get c.limits username [.str (c.generator.draw c.now).1] t with
        e | (_ | ⟨n, rest⟩)
      all_goals
        rw [hread] at hstored
        exact hstored

theorem created {username : String} {body : Json} (h : c.operation = .createNode username body)
    {reply : Reply} (hok : c.result s = .ok reply) :
    ∃ (fields : Body.NewNode String) (n : Node),
      Body.checkNew c.limits s body = .ok fields.raw ∧ s.hasUser username ∧
      s.addNode (Nodes.ofBody c.drawn username c.now fields) = some (c.after s) ∧
      Nodes.readBack c.limits username c.drawn (c.after s) = .ok n ∧ reply = .node n := by
  have hmade := c.creation h (s := s)
  rw [hok] at hmade
  generalize houtcome : Except.ok reply = outcome, c.after s = t at hmade ⊢
  cases hmade with
  | refused | unstored => cases houtcome
  | stored checked known written =>
    obtain ⟨n, hread, rfl⟩ := Outcome.map_eq_ok.mp houtcome.symm
    exact ⟨_, n, checked, known, written, hread, rfl⟩

theorem effect_createNode {username : String} {body : Json}
    (h : c.operation = .createNode username body) : Effect c s (c.after s) := by
  have hmade := c.creation h (s := s)
  generalize c.result s = outcome, c.after s = t at hmade ⊢
  cases hmade with
  | refused | unstored => exact .nothing
  | stored checked known written => exact .create h checked known written

theorem effect_updateNode {username : String} {id body : Json}
    (h : c.operation = .updateNode username id body) : Effect c s (c.after s) := by
  simp only [after, run, h, Operation.run]
  refine effect_writing fun t hresult => ?_
  rcases Nodes.update_cases hresult with
    ⟨_, rfl⟩ | ⟨_, n, _, patch, hparse, hknown, hfound, hpatch, rfl⟩
  · exact .nothing
  · exact .change h hparse hknown hfound hpatch

theorem effect_deleteNodes {username : String} {ids : List Json}
    (h : c.operation = .deleteNodes username ids) : Effect c s (c.after s) := by
  simp only [after, run, h, Operation.run]
  refine effect_writing fun t hresult => ?_
  obtain ⟨_, _, hresult⟩ := Outcome.bind_eq_ok.mp hresult
  obtain ⟨named, hnamed, hresult⟩ := Outcome.bind_eq_ok.mp hresult
  obtain ⟨u, hu, hresult⟩ := Outcome.bind_eq_ok.mp hresult
  cases hresult
  exact .remove h hnamed (Accounts.discard_require_eq_ok.mp hu)

theorem effect (c : Call) (s : Store) : Effect c s (c.after s) := by
  cases h : c.operation with
  | createUser body => exact effect_createUser h
  | updateUser username body => exact effect_updateUser h
  | deleteUser username => exact effect_deleteUser h
  | createNode username body => exact effect_createNode h
  | updateNode username id body => exact effect_updateNode h
  | deleteNodes username ids => exact effect_deleteNodes h
  | listUsers | getUser | authenticate | getNodes | searchNodes =>
    simp only [after, run, h, Operation.run, Operation.reading]
    exact .nothing

end Call

/-- A property of the empty store that every allowed call keeps is one of every reachable store. -/
theorem Reachable.invariant {allowed : Call → Store → Prop} {P : Store → Prop} (empty : P {})
    (step : ∀ c s t, allowed c s → Effect c s t → P s → P t) {s : Store}
    (h : Reachable allowed s) : P s := by
  induction h with
  | empty => exact empty
  | @call c s _ next ih => exact step c s _ next (c.effect s) ih

theorem Reachable.mono {allowed more : Call → Store → Prop} (h : ∀ c s, allowed c s → more c s)
    {s : Store} (hs : Reachable allowed s) : Reachable more s := by
  induction hs with
  | empty => exact .empty
  | call _ next ih => exact .call ih (h _ _ next)

/-! ## A short run -/

namespace Sample

def limits : Settings := { saltLength := 2, keyLength := 2 }

def call (counter : Nat) (operation : Operation) : Call :=
  ⟨limits, ⟨1600000000000000⟩, ⟨7, counter⟩, operation⟩

def enrol (counter : Nat) (username email : String) : Call :=
  call counter (.createUser (.obj [("username", .str username), ("email", .str email),
    ("salt", .str "5A"), ("key", .str "0b")]))

def upload : Call := call 3 (.createNode "anna" (.obj [("type", .str "file"),
  ("name", .str "Song"), ("text", .str "la la"), ("tags", .arr [.str "Music"]), ("lock", .null),
  ("permissions", .obj [("bert", .str "view")])]))

def collect : Call := call 4 (.createNode "bert" (.obj [("type", .str "directory"),
  ("name", .str "Album"), ("contents", .arr [.str "5F5E10000000000007000003"]),
  ("permissions", .obj [])]))

def members : List User :=
  [.ofFields "5f5e10000000000007000001" "anna" "anna@mail.org" "5a" "0b",
    .ofFields "5f5e10000000000007000002" "bert" "bert@mail.org" "5a" "0b"]

def track : FileNode :=
  .ofFields "5f5e10000000000007000003" "anna" 1600000000000 1600000000000 "Song" "la la" ["music"]
    .null [("bert", "view")]

/-- The directory of one user refers to the file of another. -/
def record : MetaNode :=
  .ofFields "5f5e10000000000007000004" "directory" "bert" 1600000000000 "Album"
    ["5f5e10000000000007000003"] []

def shelf : Store := { users := members, files := [track], metas := [record] }

def discard : Call := call 5 (.deleteNodes "anna" [.str "5F5E10000000000007000003"])

theorem members_kept :
    Reachable (fun c s => c.limits = limits ∧ c.Fresh s) { users := members } := by
  have hanna : Reachable (fun c s => c.limits = limits ∧ c.Fresh s) { users := members.take 1 } :=
    .call (c := enrol 1 "anna" "anna@mail.org") .empty ⟨rfl, by decide⟩
  exact .call (c := enrol 2 "bert" "bert@mail.org") hanna ⟨rfl, by decide⟩

/-- The run goes through no change of the settings. -/
theorem shelf_kept : Reachable (fun c s => c.limits = limits ∧ c.Fresh s) shelf := by
  have htrack : Reachable (fun c s => c.limits = limits ∧ c.Fresh s)
      { users := members, files := [track] } := .call (c := upload) members_kept ⟨rfl, by decide⟩
  exact .call (c := collect) htrack ⟨rfl, by decide⟩

theorem shelf_reachable : Reachable Call.Fresh shelf := shelf_kept.mono fun _ _ => And.right

/-- Opens a file to everyone and to another user. -/
def post : Call := call 5 (.createNode "bert" (.obj [("type", .str "file"), ("name", .str "Tune"),
  ("text", .str "do re mi"), ("tags", .arr []), ("lock", .null),
  ("permissions", .obj [("public", .str "view"), ("anna", .str "edit")])]))

def tune : FileNode :=
  .ofFields "5f5e10000000000007000005" "bert" 1600000000000 1600000000000 "Tune" "do re mi" [] .null
    [("public", "view"), ("anna", "edit")]

def stall : Store := { shelf with files := [track, tune] }

theorem stall_reachable : Reachable Call.Fresh stall :=
  .call (c := post) shelf_reachable (by decide)

/-- The call under settings by which a request may not name a node. -/
def narrow (c : Call) : Call := { c with limits := { c.limits with maxItemsPerRequest := 0 } }

end Sample
end FileShare

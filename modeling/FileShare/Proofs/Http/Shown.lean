import FileShare.Http
import FileShare.Proofs.Runs.Grants
import FileShare.Proofs.Runs.NodeForms

/-! # What responses show

A node shows only if its levels, its lock and its kind are known ones. Every stored node is of that
sort, under whatever settings it was written. A lock names a client, and it shows if the client has
a UTF-8 form. So an answer with nodes shows all of them or none, and what it shows are the values of
the reply.
-/
namespace FileShare

/-! ## Values up to the order of entries -/

/-- Two values differ at most in the order in which their objects hold their entries. -/
inductive Json.Same : Json → Json → Prop
  | refl (v : Json) : Same v v
  | arr {xs ys : List Json} (items : List.Forall₂ Same xs ys) : Same (.arr xs) (.arr ys)
  | obj {xs ys : Object}
      (entries : ∀ name, Option.Rel Same (Entries.get? xs name) (Entries.get? ys name)) :
      Same (.obj xs) (.obj ys)

namespace Json.Same

theorem of_entries {xs ys : Object}
    (h : List.Forall₂ (fun x y => x.1 = y.1 ∧ Same x.2 y.2) xs ys) : Same (.obj xs) (.obj ys) := by
  refine .obj fun name => ?_
  induction h with
  | nil => exact .none
  | @cons x y xs ys hxy _ ih =>
    obtain ⟨hname, hvalue⟩ := hxy
    rw [Entries.get?, Entries.get?, hname]
    split
    · exact .some hvalue
    · exact ih

end Json.Same

/-! ## Nodes that are stored -/

/-- The lock of a file or the kind of another node is one that is checked for. -/
def Node.IsKnown : Node → Prop
  | .file f => ∃ limits, Body.IsLock limits f.lock
  | .metaNode m => m.kind ∈ ["directory", symlinkKind]

structure Node.Regular (n : Node) : Prop where
  levels : ∀ g ∈ n.permissions, g.2 = "view" ∨ g.2 = "edit"
  known : n.IsKnown

theorem Body.known_kind {kind : String} (h : kind ∈ nodeKinds) (hother : kind ≠ fileKind) :
    kind ∈ ["directory", symlinkKind] :=
  (List.mem_cons.mp h).resolve_left hother

section Writes
variable {limits : Settings} {s : Store}

theorem Nodes.regular_ofBody {body : Json.Object} {fields : Body.NewNode String}
    (h : Body.Accepts limits s body fields) (id owner : String) (now : Instant) :
    (ofBody id owner now fields).Regular where
  levels := (grants_ofBody h id owner now).levels
  known := by
    cases h with
    | file _ _ _ _ _ hlock => exact ⟨limits, (Body.checkLock_eq_ok.mp hlock).2⟩
    | metaNode _ hallowed hother => exact Body.known_kind hallowed hother

namespace Node.Regular
variable {n : Node} (hn : n.Regular)
include hn

theorem applyPatch {p : Body.Patch String} (hp : p.Checked limits s n.kind) (now : Instant) :
    (Nodes.applyPatch now p n).Regular where
  levels := by
    rw [Nodes.permissions_applyPatch]
    refine holds_getD
      (P := fun grants : Entries String => ∀ g ∈ grants, g.2 = "view" ∨ g.2 = "edit")
      (fun grants hgrants => ?_) hn.levels
    obtain ⟨written, hwritten, rfl⟩ := Option.map_eq_some_iff.mp hgrants
    obtain ⟨v, hchecked⟩ := hp.permissions hwritten
    exact (SoundGrants.of_check hchecked).sortGrants.levels
  known := by
    cases n with
    | file f =>
      rw [Nodes.applyPatch, Nodes.applyToFile_eq]
      refine holds_getD (P := fun lock => ∃ limits, Body.IsLock limits lock)
        (fun lock hlock => ?_) hn.known
      obtain ⟨v, hchecked⟩ := hp.lock hlock
      exact ⟨limits, (Body.checkLock_eq_ok.mp hchecked).2⟩
    | metaNode m =>
      rw [Nodes.applyPatch, Nodes.applyToMeta_eq]
      exact hn.known

theorem withoutGrants (username : String) : (n.withoutGrants username).Regular where
  levels g hg := by
    rw [permissions_withoutGrants] at hg
    exact hn.levels g (List.mem_filter.mp hg).1
  known := by cases n <;> exact hn.known

theorem withoutContents (ids : List String) : (n.withoutContents ids).Regular where
  levels g hg := hn.levels g (permissions_withoutContents n ids ▸ hg)
  known := by cases n <;> exact hn.known

end Node.Regular
end Writes

variable {c : Call} {s t : Store}

theorem Effect.regular (h : Effect c s t) (hs : ∀ n ∈ s.nodes, n.Regular) :
    ∀ n ∈ t.nodes, n.Regular :=
  h.forall_nodes (fun _ _ _ haccepts => Nodes.regular_ofBody haccepts _ _ _)
    (fun _ _ hp hn => hn.applyPatch hp c.now) (fun _ username hn => hn.withoutGrants username)
    (fun _ ids hn => hn.withoutContents ids) hs

theorem Reachable.regular {allowed : Call → Store → Prop} (h : Reachable allowed s) :
    ∀ n ∈ s.nodes, n.Regular :=
  h.invariant (fun _ hn => absurd hn List.not_mem_nil) fun _ _ _ _ heffect hs => heffect.regular hs

/-! ## What is shown -/

/-- The client of the lock, if there is one, has a UTF-8 form. -/
def Json.LockEncodes (lock : Json) : Prop :=
  ∀ entries, lock = .obj entries → ∃ client : String, Object.get entries "client" = .str client

def Node.Encodes : Node → Prop
  | .file f => f.lock.LockEncodes
  | .metaNode _ => True

namespace Http

theorem shownLock?_of_isLock {limits : Settings} {lock : Json} (h : Body.IsLock limits lock)
    (hencodes : lock.LockEncodes) : ∃ shown, shownLock? lock = some shown ∧ shown.Same lock := by
  cases h with
  | free => exact ⟨.null, rfl, .refl _⟩
  | @held entries user _ time names huser _ _ _ htime =>
    obtain ⟨client, hclient⟩ := hencodes entries rfl
    have hshown : shownLock? (.obj entries) = some (.obj [("user", .str user),
        ("client", .str client), ("createdAt", .num time)]) := by
      simp only [shownLock?, huser, hclient, htime]
    refine ⟨_, hshown, .obj fun name => ?_⟩
    by_cases hname : name ∈ Body.lockFields
    · simp only [Body.lockFields, List.mem_cons, List.not_mem_nil, or_false] at hname
      rcases hname with rfl | rfl | rfl
      · rw [Body.get?_of_get huser (by simp)]
        exact .some (.refl _)
      · rw [Body.get?_of_get hclient (by simp)]
        exact .some (.refl _)
      · rw [Body.get?_of_get htime (by simp)]
        exact .some (.refl _)
    · rw [Entries.get?_eq_none_iff.mpr hname,
        Entries.get?_eq_none_iff.mpr (mt (names name).mp hname)]
      exact .none

theorem shownLock?_eq_none {lock : Json} (h : ¬ lock.LockEncodes) : shownLock? lock = none := by
  simp only [Json.LockEncodes, not_forall] at h
  obtain ⟨entries, rfl, hclient⟩ := h
  simp only [shownLock?]
  split
  · rename_i user client time _ hgiven _
    exact absurd ⟨client, hgiven⟩ hclient
  · rfl

theorem shownNode?_of_regular {n : Node} (h : n.Regular) (hencodes : n.Encodes) :
    ∃ shown, shownNode? n = some shown ∧ shown.Same n.toJson := by
  have hlevels : hasKnownLevels n = true := by
    simpa [hasKnownLevels, Matcher.permissionLevels] using fun a b => h.levels (a, b)
  cases n with
  | file f =>
    obtain ⟨limits, hlock⟩ := h.known
    obtain ⟨lock, hshown, hsame⟩ := shownLock?_of_isLock hlock hencodes
    refine ⟨(Node.file { f with lock }).toJson, by simp [shownNode?, hlevels, hshown], ?_⟩
    refine .of_entries ?_
    simp [Node.publicFields, hsame, Json.Same.refl]
  | metaNode m =>
    have hkind : m.kind ∈ ["directory", symlinkKind] := h.known
    exact ⟨_, by rw [shownNode?, hlevels, Bool.not_true, if_neg (by decide), if_pos hkind], .refl _⟩

theorem shownNode?_eq_none {n : Node} (h : ¬ n.Encodes) : shownNode? n = none := by
  cases n with
  | file f => simp [shownNode?, shownLock?_eq_none h]
  | metaNode m => exact absurd trivial h

end Http

def Reply.nodeList : Reply → List Node
  | .node n => [n]
  | .nodes ns => ns
  | _ => []

def Reply.Encodes (reply : Reply) : Prop := ∀ n ∈ reply.nodeList, n.Encodes

namespace Http

theorem shownReply?_of_regular {reply : Reply} (h : ∀ n ∈ reply.nodeList, n.Regular)
    (hencodes : reply.Encodes) :
    ∃ shown, shownReply? reply = some shown ∧ shown.Same reply.toJson := by
  cases reply with
  | node n => exact shownNode?_of_regular (h n List.mem_cons_self) (hencodes n List.mem_cons_self)
  | nodes ns =>
    have hall : ∃ shown, ns.mapM shownNode? = some shown ∧
        List.Forall₂ Json.Same shown (ns.map Node.toJson) := by
      induction ns with
      | nil => exact ⟨[], rfl, .nil⟩
      | cons n ns ih =>
        obtain ⟨hn, hns⟩ := List.forall_mem_cons.mp h
        obtain ⟨hfirst, hmore⟩ := List.forall_mem_cons.mp hencodes
        obtain ⟨first, hfirst, hsame⟩ := shownNode?_of_regular hn hfirst
        obtain ⟨rest, hrest, hsames⟩ := ih hns hmore
        exact ⟨first :: rest, by simp [List.mapM_cons, hfirst, hrest], .cons hsame hsames⟩
    obtain ⟨shown, hshown, hsame⟩ := hall
    exact ⟨.arr shown, by rw [shownReply?, hshown]; rfl, .arr hsame⟩
  | done | user | users | answer => exact ⟨_, rfl, .refl _⟩

/-- Where one of the nodes cannot be shown there is no response to the reply. -/
theorem shownReply?_eq_none {reply : Reply} (h : ¬ reply.Encodes) : shownReply? reply = none := by
  simp only [Reply.Encodes, not_forall] at h
  obtain ⟨n, hn, hencodes⟩ := h
  cases reply with
  | node k =>
    cases List.mem_singleton.mp hn
    exact shownNode?_eq_none hencodes
  | nodes ns =>
    rw [shownReply?, Option.map_eq_none_iff]
    cases hshown : ns.mapM shownNode? with
    | none => rfl
    | some shown =>
      obtain ⟨v, _, hv⟩ :=
        Outcome.exists_mem_of_forall₂ (Outcome.mapM_eq_some.mp hshown).flip hn
      cases (shownNode?_eq_none hencodes).symm.trans hv
  | done | user | users | answer => exact absurd hn List.not_mem_nil

end Http

/-! ## Nodes in replies -/

namespace Nodes
variable {limits : Settings} {username : String} {found : List Node} {n : Node}

theorem mem_of_get {ids : List Json} (h : get limits username ids s = .ok found) (hn : n ∈ found) :
    n ∈ s.nodes := by
  obtain ⟨_, _, h⟩ := Outcome.bind_eq_ok.mp h
  obtain ⟨_, _, h⟩ := Outcome.bind_eq_ok.mp h
  obtain ⟨_, _, h⟩ := Outcome.bind_eq_ok.mp h
  obtain ⟨nodes, hfetch, h⟩ := Outcome.bind_eq_ok.mp h
  split at h
  · cases h
    exact Query.mem_of_fetch hfetch hn
  · simp at h

theorem mem_of_search {after equality patterns : Json}
    (h : search limits username after equality patterns s = .ok found) (hn : n ∈ found) :
    n ∈ s.nodes := by
  obtain ⟨_, _, h⟩ := Outcome.bind_eq_ok.mp h
  obtain ⟨_, _, h⟩ := Outcome.bind_eq_ok.mp h
  split at h
  · simp at h
  · obtain ⟨_, _, h⟩ := Outcome.bind_eq_ok.mp h
    obtain ⟨plan, _, h⟩ := Outcome.bind_eq_ok.mp h
    exact Query.mem_of_fetch h hn

theorem mem_of_readBack {id : String} (h : readBack limits username id s = .ok n) :
    n ∈ s.nodes := by
  obtain ⟨found, hget, h⟩ := Outcome.bind_eq_ok.mp h
  cases found with
  | nil => simp at h
  | cons k rest =>
    cases h
    exact mem_of_get hget List.mem_cons_self

end Nodes

theorem Call.mem_of_reply {reply : Reply} (h : c.result s = .ok reply) {n : Node}
    (hn : n ∈ reply.nodeList) : n ∈ (c.after s).nodes := by
  have hran := h
  unfold result run at h
  cases hop : c.operation with
  | updateUser | deleteUser | updateNode | deleteNodes =>
    rw [hop] at h
    cases (Operation.writing_eq_ok h).2
    exact absurd hn List.not_mem_nil
  | listUsers | getUser | authenticate | createUser =>
    rw [hop] at h
    obtain ⟨_, _, rfl⟩ := Outcome.map_eq_ok.mp h
    exact absurd hn List.not_mem_nil
  | getNodes =>
    rw [hop] at h
    obtain ⟨found, hfound, rfl⟩ := Outcome.map_eq_ok.mp h
    simp only [after, run, hop, Operation.run]
    exact Nodes.mem_of_get hfound hn
  | searchNodes =>
    rw [hop] at h
    obtain ⟨found, hfound, rfl⟩ := Outcome.map_eq_ok.mp h
    simp only [after, run, hop, Operation.run]
    exact Nodes.mem_of_search hfound hn
  | createNode =>
    obtain ⟨_, k, _, _, _, hread, rfl⟩ := created hop hran
    cases List.mem_singleton.mp hn
    exact Nodes.mem_of_readBack hread

end FileShare

import FileShare.Proofs.Runs.Patches
import FileShare.Proofs.Search.ReadIsolation

/-! # Patches of different nodes

A patch first decides what it writes, and then writes one node or none. What it decides depends on
the accounts, on which identifiers name nodes, and on the node that it is for. A patch of another
node changes none of these, whether it succeeds or fails, so the order of the two makes no
difference.
-/
namespace FileShare

variable {s t : Store}

/-! ## Deciding and writing -/

namespace Nodes

/-- The node that a patch writes once all checks have passed. A patch without fields writes none. -/
def rewritten? (limits : Settings) (now : Instant) (username : String) (id body : Json)
    (s : Store) : Except Failure (Option Node) := do
  let target ← Identifier.parse (some "node_id") id
  if Accounts.isEmptyObject body then return none
  else
    discard (Accounts.require s username)
    match ← Query.fetch s (Query.editPlan target username) with
    | [] => reject (.notFound id "node_id")
    | node :: _ =>
      let patch ← (← Body.checkPatch limits s node.kind body).encode
      return some (applyPatch now patch node)

end Nodes

/-- The store after a decision was carried out. A failure writes nothing. -/
def Store.written (s : Store) : Except Failure (Option Node) → Store
  | .ok (some n) => s.replaceNode n
  | _ => s

section Deciding
variable {limits : Settings} {now : Instant} {username : String} {id body : Json}

theorem Nodes.update_eq_map : update limits now username id body s =
    (rewritten? limits now username id body s).map fun written => written.elim s s.replaceNode := by
  unfold update rewritten?
  cases Identifier.parse (some "node_id") id with
  | error e => rfl
  | ok target =>
    by_cases hempty : Accounts.isEmptyObject body
    · simp only [hempty, Outcome.ok_bind, if_true]
      rfl
    · simp only [hempty, Outcome.ok_bind, Bool.false_eq_true, if_false]
      cases discard (Accounts.require s username) with
      | error e => rfl
      | ok _ =>
        cases Query.fetch s (Query.editPlan target username) with
        | error e => rfl
        | ok found =>
          cases found with
          | nil => rfl
          | cons n rest =>
            simp only [Outcome.ok_bind]
            cases Body.checkPatch limits s n.kind body with
            | error e => rfl
            | ok given =>
              simp only [Outcome.ok_bind]
              cases given.encode <;> rfl

theorem Call.updateNode_eq {c : Call} (asked : c.operation = .updateNode username id body) :
    c.result s = (Nodes.rewritten? c.limits c.now username id body s).map (fun _ => .done) ∧
      c.after s = s.written (Nodes.rewritten? c.limits c.now username id body s) := by
  simp only [result, after, run, asked, Operation.run, Nodes.update_eq_map]
  rcases Nodes.rewritten? c.limits c.now username id body s with e | (_ | n)
  · exact ⟨rfl, rfl⟩
  · exact ⟨rfl, rfl⟩
  · exact ⟨rfl, rfl⟩

theorem Nodes.parse_of_rewritten (hs : s.Keyed) {n : Node}
    (h : rewritten? limits now username id body s = .ok (some n)) :
    Identifier.parse (some "node_id") id = .ok n.id := by
  obtain ⟨target, hparse, h⟩ := Outcome.bind_eq_ok.mp h
  split at h
  · cases h
  · obtain ⟨_, _, h⟩ := Outcome.bind_eq_ok.mp h
    obtain ⟨found, hfound, h⟩ := Outcome.bind_eq_ok.mp h
    cases found with
    | nil => simp at h
    | cons k rest =>
      obtain ⟨_, _, h⟩ := Outcome.bind_eq_ok.mp h
      obtain ⟨patch, _, h⟩ := Outcome.bind_eq_ok.mp h
      cases h
      obtain ⟨_, hid, _⟩ := Query.editable_of_fetch hs hfound List.mem_cons_self
      rw [id_applyPatch, hid, hparse]

/-- Stores that agree on the accounts, on the identifiers of nodes and on the nodes that a patch
names decide alike. -/
theorem Nodes.rewritten_congr (hs : s.Keyed) (ht : t.Keyed) (husers : s.users = t.users)
    (hknow : s.KnowsAlike t)
    (hnamed : ∀ n : Node, Identifier.parse (some "node_id") id = .ok n.id →
      (n ∈ s.nodes ↔ n ∈ t.nodes)) :
    rewritten? limits now username id body s = rewritten? limits now username id body t := by
  unfold rewritten?
  cases hparse : Identifier.parse (some "node_id") id with
  | error e => rfl
  | ok target =>
    have hrequire : Accounts.require s username = Accounts.require t username := by
      rw [Accounts.require, Accounts.require, Store.userNamed?, Store.userNamed?, husers]
    have hfetch : Query.fetch s (Query.editPlan target username) =
        Query.fetch t (Query.editPlan target username) := by
      apply Query.fetch_congr hs ht (Query.editPlan_answers target username)
      intro n hn
      rw [Query.editPlan_selects, Bool.and_eq_true, decide_eq_true_iff] at hn
      exact hnamed n (hn.1 ▸ hparse)
    have hcheck : ∀ kind, Body.checkPatch limits s kind = Body.checkPatch limits t kind :=
      Body.checkPatch_congr hknow limits
    simp only [Outcome.ok_bind, hrequire, hfetch, hcheck]

end Deciding

/-! ## Writes of different nodes -/

namespace Store

theorem mem_replaceNode_of_ne {n k : Node} (h : k.id ≠ n.id) :
    k ∈ (s.replaceNode n).nodes ↔ k ∈ s.nodes := by
  constructor
  · intro hk
    rcases mem_replaceNode hk with hold | rfl
    · exact hold
    · exact absurd rfl h
  · intro hk
    cases n with
    | file f =>
      cases k with
      | file g =>
        exact mem_nodes_file.mpr (List.mem_map.mpr ⟨g, mem_nodes_file.mp hk, if_neg h⟩)
      | metaNode m =>
        have hm : m ∈ s.metas := mem_nodes_metaNode.mp hk
        exact mem_nodes_metaNode.mpr hm
    | metaNode m =>
      cases k with
      | file g =>
        have hg : g ∈ s.files := mem_nodes_file.mp hk
        exact mem_nodes_file.mpr hg
      | metaNode l =>
        exact mem_nodes_metaNode.mpr (List.mem_map.mpr ⟨l, mem_nodes_metaNode.mp hk, if_neg h⟩)

theorem replaceNode_comm {n k : Node} (h : n.id ≠ k.id) :
    (s.replaceNode n).replaceNode k = (s.replaceNode k).replaceNode n := by
  cases n with
  | file f =>
    cases k with
    | file g =>
      have hid : f.id ≠ g.id := h
      exact congrArg (fun files => { s with files }) (map_replaced_comm s.files hid)
    | metaNode m => rfl
  | metaNode m =>
    cases k with
    | file g => rfl
    | metaNode l =>
      have hid : m.id ≠ l.id := h
      exact congrArg (fun metas => { s with metas }) (map_replaced_comm s.metas hid)

end Store

/-! ## What a decision leaves -/

namespace Store
variable (s) (written : Except Failure (Option Node))

theorem users_written : (s.written written).users = s.users := by
  rcases written with e | (_ | n)
  · rfl
  · rfl
  · exact users_replaceNode n

theorem map_id_written : (s.written written).nodes.map Node.id = s.nodes.map Node.id := by
  rcases written with e | (_ | n)
  · rfl
  · rfl
  · exact map_id_replaceNode n

theorem knowsAlike_written : (s.written written).KnowsAlike s := by
  rcases written with e | (_ | n)
  · exact ⟨rfl, rfl⟩
  · exact ⟨rfl, rfl⟩
  · exact knowsAlike_replaceNode n

variable {s written}

theorem mem_written {k : Node} (h : ∀ n, written = .ok (some n) → k.id ≠ n.id) :
    k ∈ (s.written written).nodes ↔ k ∈ s.nodes := by
  rcases written with e | (_ | n)
  · exact Iff.rfl
  · exact Iff.rfl
  · exact mem_replaceNode_of_ne (h n rfl)

theorem written_comm {other : Except Failure (Option Node)}
    (h : ∀ n k, written = .ok (some n) → other = .ok (some k) → n.id ≠ k.id) :
    (s.written written).written other = (s.written other).written written := by
  rcases written with e | (_ | n)
  · rfl
  · rfl
  · rcases other with e | (_ | k)
    · rfl
    · rfl
    · exact replaceNode_comm (h n k rfl rfl)

end Store

theorem Call.rewritten_after (c : Call) (username : String) (body : Json) {other : Call}
    {id id' : Json} {username' : String} {body' : Json} (hs : s.Keyed)
    (asked : other.operation = .updateNode username' id' body')
    (apart : ∀ a b, Identifier.parse (some "node_id") id = .ok a →
      Identifier.parse (some "node_id") id' = .ok b → a ≠ b) :
    Nodes.rewritten? c.limits c.now username id body (other.after s) =
      Nodes.rewritten? c.limits c.now username id body s := by
  have hafter : (other.after s).Keyed := by
    refine ⟨?_, (other.effect s).kinds hs.kinds⟩
    rw [(updateNode_eq asked).2, Store.map_id_written]
    exact hs.ids
  rw [(updateNode_eq asked).2] at hafter ⊢
  apply Nodes.rewritten_congr hafter hs (Store.users_written _ _) (Store.knowsAlike_written _ _)
  intro k hk
  apply Store.mem_written
  intro n hn
  exact apart k.id n.id hk (Nodes.parse_of_rewritten hs hn)

/-- In every run, as long as identifiers are distinct, two patches of different nodes can be made in
either order. Each of them succeeds or fails alike in both, with the same error, and the store that
they leave is the same. A call carries its own time. -/
theorem patches_commute {allowed : Call → Store → Prop} {c₁ c₂ : Call}
    {username₁ username₂ : String} {id₁ body₁ id₂ body₂ : Json} (h : Reachable allowed s)
    (hids : (s.nodes.map Node.id).Nodup)
    (asked₁ : c₁.operation = .updateNode username₁ id₁ body₁)
    (asked₂ : c₂.operation = .updateNode username₂ id₂ body₂)
    (apart : ∀ a b, Identifier.parse (some "node_id") id₁ = .ok a →
      Identifier.parse (some "node_id") id₂ = .ok b → a ≠ b) :
    c₁.result (c₂.after s) = c₁.result s ∧ c₂.result (c₁.after s) = c₂.result s ∧
      c₂.after (c₁.after s) = c₁.after (c₂.after s) := by
  have hs : s.Keyed := ⟨hids, h.kinds⟩
  have apart' : ∀ a b, Identifier.parse (some "node_id") id₂ = .ok a →
      Identifier.parse (some "node_id") id₁ = .ok b → a ≠ b := fun a b ha hb =>
    (apart b a hb ha).symm
  have hfirst := Call.rewritten_after c₁ username₁ body₁ hs asked₂ apart
  have hsecond := Call.rewritten_after c₂ username₂ body₂ hs asked₁ apart'
  refine ⟨?_, ?_, ?_⟩
  · rw [(Call.updateNode_eq asked₁).1, hfirst, ← (Call.updateNode_eq asked₁).1]
  · rw [(Call.updateNode_eq asked₂).1, hsecond, ← (Call.updateNode_eq asked₂).1]
  · have hwritten : ∀ n k,
        Nodes.rewritten? c₁.limits c₁.now username₁ id₁ body₁ s = .ok (some n) →
        Nodes.rewritten? c₂.limits c₂.now username₂ id₂ body₂ s = .ok (some k) → n.id ≠ k.id := by
      intro n k hn hk
      exact apart n.id k.id (Nodes.parse_of_rewritten hs hn) (Nodes.parse_of_rewritten hs hk)
    have hafter₁ : ∀ t, c₁.after t =
        t.written (Nodes.rewritten? c₁.limits c₁.now username₁ id₁ body₁ t) :=
      fun t => (Call.updateNode_eq asked₁).2
    have hafter₂ : ∀ t, c₂.after t =
        t.written (Nodes.rewritten? c₂.limits c₂.now username₂ id₂ body₂ t) :=
      fun t => (Call.updateNode_eq asked₂).2
    rw [hafter₂, hsecond, hafter₁ s, Store.written_comm hwritten, ← hafter₂ s, hafter₁, hfirst]

namespace Sample

/-- Gives a file to another user. -/
def giveAway : Call := patch 5 handOver

/-- The other user takes the file out of a directory, which is named in upper case. -/
def unload : Call := call 6 (.updateNode "bert" (.str "5F5E10000000000007000004")
  (.obj [("contents", .arr []), ("name", .str "Box")]))

end Sample

/-- The file changes its owner and the directory drops the file, in either order. -/
theorem patches_commute_sample :
    Reachable Call.Fresh Sample.shelf ∧ (Sample.shelf.nodes.map Node.id).Nodup ∧
    Sample.giveAway.result Sample.shelf = .ok .done ∧
    Sample.unload.result Sample.shelf = .ok .done ∧
    Sample.giveAway.result (Sample.unload.after Sample.shelf) = .ok .done ∧
    Sample.unload.result (Sample.giveAway.after Sample.shelf) = .ok .done ∧
    Sample.unload.after (Sample.giveAway.after Sample.shelf) =
      Sample.giveAway.after (Sample.unload.after Sample.shelf) := by
  have hids : (Sample.shelf.nodes.map Node.id).Nodup := by decide
  have hfirst : Sample.giveAway.result Sample.shelf = .ok .done := rfl
  have hsecond : Sample.unload.result Sample.shelf = .ok .done := rfl
  have hgives : Sample.giveAway.operation =
      .updateNode "anna" (.str Sample.track.id) (.obj Sample.handOver) := rfl
  have hunloads : Sample.unload.operation = .updateNode "bert" (.str "5F5E10000000000007000004")
      (.obj [("contents", .arr []), ("name", .str "Box")]) := rfl
  have apart : ∀ a b, Identifier.parse (some "node_id") (.str Sample.track.id) = .ok a →
      Identifier.parse (some "node_id") (.str "5F5E10000000000007000004") = .ok b → a ≠ b := by
    rintro a b ⟨⟩ ⟨⟩
    decide
  obtain ⟨hfirst', hsecond', hstore⟩ :=
    patches_commute Sample.shelf_reachable hids hgives hunloads apart
  exact ⟨Sample.shelf_reachable, hids, hfirst, hsecond, hfirst'.trans hfirst,
    hsecond'.trans hsecond, hstore⟩

end FileShare

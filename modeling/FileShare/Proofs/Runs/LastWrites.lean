import FileShare.Proofs.Runs.Patches

/-! # What was last written

A run is accompanied by a ledger: under the row of a node stand the fields that requests gave values
to, each with the value given last, in the letters of the request. The ledger is no part of the
store, and nothing reads it. What is stored of a name or of tags is told by the ledger, whatever the
run has been.
-/
namespace FileShare

variable {c : Call} {s t : Store} {username : String}

namespace Node

def name : Node → String
  | file f => f.name
  | metaNode m => m.name

end Node

/-! ## Rows -/

namespace Store

def rows (s : Store) : List Query.Row := s.nodes.map Query.Row.ofNode

/-- The row that a user changes under an identifier. -/
def editedRow? (s : Store) (username : String) (id : Json) : Option Query.Row :=
  match Identifier.parse (some "node_id") id with
  | .ok target =>
    (s.nodes.find? fun n => n.id = target && n.EditableBy username).map Query.Row.ofNode
  | .error _ => none

theorem KeyedTables.nodup_rows (hs : s.KeyedTables) : s.rows.Nodup := by
  have hfiles : (s.files.map fun f => Query.Row.ofNode (.file f)).Nodup := by
    refine List.Nodup.map_on ?_ (hs.files.of_map _)
    intro f hf g hg hrow
    exact List.inj_on_of_nodup_map hs.files hf hg (congrArg Query.Row.id hrow)
  have hmetas : (s.metas.map fun m => Query.Row.ofNode (.metaNode m)).Nodup := by
    refine List.Nodup.map_on ?_ (hs.metas.of_map _)
    intro m hm k hk hrow
    exact List.inj_on_of_nodup_map hs.metas hm hk (congrArg Query.Row.id hrow)
  rw [rows, nodes, List.map_append, List.map_map, List.map_map, List.nodup_append]
  refine ⟨hfiles, hmetas, ?_⟩
  intro row hrow other hother hsame
  obtain ⟨f, _, rfl⟩ := List.mem_map.mp hrow
  obtain ⟨m, hm, rfl⟩ := List.mem_map.mp hother
  exact hs.kinds m hm (congrArg Query.Row.kind hsame).symm

theorem KeyedTables.eq_of_row (hs : s.KeyedTables) {n k : Node} (hn : n ∈ s.nodes)
    (hk : k ∈ s.nodes) (h : Query.Row.ofNode n = Query.Row.ofNode k) : n = k :=
  List.inj_on_of_nodup_map hs.nodup_rows hn hk h

end Store

namespace Query

/-- A page of one row shows the first hit itself, even if both tables have its identifier. -/
theorem fetch_first (hs : s.KeyedTables) {p : Plan} (hp : p.Answers) (hfault : p.fault? = none)
    (hone : p.limit = 1) :
    fetch s p = .ok (newestNodes (s.nodes.filter p.selects)).head?.toList := by
  have hmem : ∀ k ∈ newestNodes (s.nodes.filter p.selects), k ∈ s.nodes := fun k hk =>
    (List.mem_filter.mp (mem_sortBy.mp hk)).1
  rw [fetch, rows_eq hp hfault, hone]
  cases hhits : newestNodes (s.nodes.filter p.selects) with
  | nil => rfl
  | cons k more =>
    have hk : ∀ n ∈ [k], n ∈ s.nodes := by
      intro n hn
      cases List.mem_singleton.mp hn
      exact hmem k (hhits ▸ List.mem_cons_self)
    obtain ⟨first, hfirst, _, hnode⟩ := nodeOf?_eq_some hk hs List.mem_cons_self
    cases List.mem_singleton.mp hfirst
    have hrow : nodeOf? s [Row.ofNode k] (Row.ofNode k).id = some k := hnode
    have hpage : page 1 (k :: more) = [k] := rfl
    simp only [hpage, Outcome.ok_bind, List.map_cons, List.map_nil, List.filterMap_cons,
      List.filterMap_nil, hrow]
    rfl

/-- Nodes of one identifier stay in the order of the tables. -/
theorem newestNodes_of_id {hits : List Node} {id : String} (h : ∀ k ∈ hits, k.id = id) :
    newestNodes hits = hits := by
  apply sortBy_eq_self
  refine List.Pairwise.imp_of_mem ?_ (List.pairwise_of_forall fun _ _ => trivial)
  intro a b ha hb _
  rw [h a ha, h b hb]
  exact decide_eq_true (String.le_refl id)

theorem find?_of_fetch (hs : s.KeyedTables) {target : String} {n : Node} {rest : List Node}
    (h : fetch s (editPlan target username) = .ok (n :: rest)) :
    s.nodes.find? (fun k => k.id = target && k.EditableBy username) = some n := by
  have hselects : (editPlan target username).selects =
      fun k => decide (k.id = target) && decide (k.EditableBy username) :=
    funext fun k => editPlan_selects target username k
  have hids : ∀ k ∈ s.nodes.filter (editPlan target username).selects, k.id = target := by
    intro k hk
    rw [hselects, List.mem_filter, Bool.and_eq_true, decide_eq_true_iff] at hk
    exact hk.2.1
  rw [fetch_first hs (editPlan_answers target username) rfl rfl, newestNodes_of_id hids, hselects,
    List.head?_filter] at h
  cases hfind : s.nodes.find? (fun k => k.id = target && k.EditableBy username) with
  | none =>
    rw [hfind] at h
    cases h
  | some k =>
    rw [hfind] at h
    cases h
    rfl

end Query

theorem Store.editedRow?_of_fetch (hs : s.KeyedTables) {id : Json} {target : String} {n : Node}
    {rest : List Node} (named : Identifier.parse (some "node_id") id = .ok target)
    (found : Query.fetch s (Query.editPlan target username) = .ok (n :: rest)) :
    s.editedRow? username id = some (Query.Row.ofNode n) := by
  simp only [editedRow?, named, Query.find?_of_fetch hs found, Option.map_some]

/-! ## The ledger -/

/-- What requests have written: under the row of a node, its fields with the values given last. -/
abbrev Ledger := Query.Row → Json.Object

/-- A new node begins with the fields of its body. A patch that succeeds puts its fields over those
of the node that it changes. No other call writes fields of nodes. -/
def Call.note (c : Call) (s : Store) (ledger : Ledger) : Ledger :=
  match c.operation with
  | .createNode _ (.obj body) => fun row =>
    if row ∈ (c.after s).rows ∧ row ∉ s.rows then body else ledger row
  | .updateNode username id (.obj body) => fun row =>
    if (c.result s).isOk ∧ s.editedRow? username id = some row then
      Entries.overriddenBy (ledger row) body
    else ledger row
  | _ => ledger

/-- The stores that runs of allowed calls lead to, each with the ledger of its run. -/
inductive Recorded (allowed : Call → Store → Prop) : Store → Ledger → Prop
  | empty : Recorded allowed {} fun _ => []
  | call {c : Call} {s : Store} {ledger : Ledger} (run : Recorded allowed s ledger)
      (next : allowed c s) : Recorded allowed (c.after s) (c.note s ledger)

theorem Recorded.reachable {allowed : Call → Store → Prop} {ledger : Ledger}
    (h : Recorded allowed s ledger) : Reachable allowed s := by
  induction h with
  | empty => exact .empty
  | call _ next ih => exact .call ih next

theorem Reachable.recorded {allowed : Call → Store → Prop} (h : Reachable allowed s) :
    ∃ ledger, Recorded allowed s ledger := by
  induction h with
  | empty => exact ⟨_, .empty⟩
  | call _ next ih =>
    obtain ⟨ledger, hledger⟩ := ih
    exact ⟨_, .call hledger next⟩

/-- The name and the tags of a node are those that were written, tags in their stored form. -/
structure Node.Shows (n : Node) (written : Json.Object) : Prop where
  name : Entries.get? written "name" = some (.str n.name)
  tags : ∀ f, n = .file f → ∃ tags, Entries.get? written "tags" = some (.strings tags) ∧
    f.tags = sortTexts (Matcher.normalizeTags tags)

/-! ## Values that pass their checks -/

/-- A field that passes its check holds what the check gives back; one that is absent leaves what
was written. -/
theorem Fields.written_of_ifPresent {α β : Type} {body : Json.Object} {field : String}
    {check : Json → Except Failure β} {o : Option α} {spell : α → β}
    (h : ifPresent body field check = .ok (o.map spell)) {raw : α → Json}
    (hraw : ∀ {v a}, check v = .ok (spell a) → v = raw a) (old : Json.Object) :
    Entries.get? (Entries.overriddenBy old body) field =
      (o.map raw).or (Entries.get? old field) := by
  rw [Entries.get?_overriddenBy, get?_of_ifPresent h hraw]

namespace Body
variable {limits : Settings} {v : Json}

theorem eq_of_checkName {name : String} (h : checkName limits v = .ok (.text name)) :
    v = .str name :=
  (boundedText_eq_ok.mp h).1

theorem eq_of_checkTags {tags : List String} (h : checkTags limits v = .ok (tags.map .text)) :
    v = .strings tags :=
  (checkTags_eq_ok.mp h).1.trans (Json.strings_eq tags).symm

end Body

namespace Node.Shows
variable {limits : Settings} {body : Json.Object}

theorem ofBody {fields : Body.NewNode String} (h : Body.Accepts limits s body fields)
    (id owner : String) (now : Instant) : (Nodes.ofBody id owner now fields).Shows body := by
  cases h with
  | file _ hname _ _ htags _ =>
    refine ⟨Body.get?_of_get (Body.eq_of_checkName hname) (by simp), ?_⟩
    rintro f ⟨⟩
    exact ⟨_, Body.get?_of_get (Body.eq_of_checkTags htags) (by simp [Json.strings]), rfl⟩
  | metaNode _ _ _ hname _ _ =>
    refine ⟨Body.get?_of_get (Body.eq_of_checkName hname) (by simp), ?_⟩
    rintro f ⟨⟩

variable {n : Node} {written : Json.Object} (hn : n.Shows written)
include hn

theorem withoutGrants (username : String) : (n.withoutGrants username).Shows written := by
  cases n with
  | file f =>
    refine ⟨hn.name, ?_⟩
    rintro g ⟨⟩
    exact hn.tags f rfl
  | metaNode m =>
    refine ⟨hn.name, ?_⟩
    rintro g ⟨⟩

theorem withoutContents (ids : List String) : (n.withoutContents ids).Shows written := by
  cases n with
  | file f => exact hn
  | metaNode m =>
    refine ⟨hn.name, ?_⟩
    rintro g ⟨⟩

theorem applyPatch {p : Body.Patch String} (now : Instant)
    (h : Body.checkPatch limits s n.kind (.obj body) = .ok p.raw)
    (hkinds : ∀ m, n = .metaNode m → m.kind ≠ fileKind) :
    (Nodes.applyPatch now p n).Shows (Entries.overriddenBy written body) := by
  cases n with
  | file f =>
    have haccepts := Body.checkFilePatch_accepts h
    have hname := Fields.written_of_ifPresent haccepts.name Body.eq_of_checkName written
    have htags := Fields.written_of_ifPresent haccepts.tags Body.eq_of_checkTags written
    obtain ⟨tags, hwritten, hstored⟩ := hn.tags f rfl
    rw [Nodes.applyPatch, Nodes.applyToFile_eq]
    constructor
    · rw [hname, hn.name]
      cases p.name <;> rfl
    · rintro g ⟨⟩
      rw [htags, hwritten]
      cases p.tags with
      | none => exact ⟨tags, rfl, hstored⟩
      | some given => exact ⟨given, rfl, rfl⟩
  | metaNode m =>
    rw [Node.kind, Body.checkPatch, if_neg (hkinds m rfl)] at h
    have haccepts := Body.checkMetaPatch_accepts h
    have hname := Fields.written_of_ifPresent haccepts.name Body.eq_of_checkName written
    rw [Nodes.applyPatch, Nodes.applyToMeta_eq]
    constructor
    · rw [hname, hn.name]
      cases p.name <;> rfl
    · rintro g ⟨⟩

end Node.Shows

/-! ## One call -/

theorem Call.after_createNode {body : Json} (asked : c.operation = .createNode username body) :
    c.after s = s ∨ ∃ given fields, body = .obj given ∧ Body.Accepts c.limits s given fields ∧
      s.addNode (Nodes.ofBody c.drawn username c.now fields) = some (c.after s) := by
  have hmade := c.creation asked (s := s)
  generalize c.result s = outcome, c.after s = t at hmade ⊢
  cases hmade with
  | refused | unstored => exact .inl rfl
  | stored checked _ written =>
    obtain ⟨given, hbody, haccepts⟩ := Body.checkNew_accepts checked
    exact .inr ⟨given, _, hbody, haccepts, written⟩

theorem Store.mem_replaceNode_self {n : Node} (hn : n ∈ s.nodes) (now : Instant)
    (p : Body.Patch String) :
    Nodes.applyPatch now p n ∈ (s.replaceNode (Nodes.applyPatch now p n)).nodes := by
  have hid := Nodes.id_applyPatch now p n
  cases n with
  | file f => exact mem_nodes_file.mpr (List.mem_map.mpr ⟨f, mem_nodes_file.mp hn, if_pos hid.symm⟩)
  | metaNode m =>
    exact mem_nodes_metaNode.mpr (List.mem_map.mpr ⟨m, mem_nodes_metaNode.mp hn, if_pos hid.symm⟩)

namespace Call
variable {ledger : Ledger}

section Create
variable {body : Json} (asked : c.operation = .createNode username body)
include asked

theorem note_createNode_of_mem {row : Query.Row} (hrow : row ∈ s.rows) :
    c.note s ledger row = ledger row := by
  cases body with
  | obj given =>
    simp only [note, asked]
    exact if_neg fun h => h.2 hrow
  | _ => simp only [note, asked]

theorem shows_createNode (hs : s.KeyedTables)
    (hall : ∀ n ∈ s.nodes, n.Shows (ledger (Query.Row.ofNode n))) :
    ∀ n ∈ (c.after s).nodes, n.Shows (c.note s ledger (Query.Row.ofNode n)) := by
  have hold : ∀ n ∈ s.nodes, n.Shows (c.note s ledger (Query.Row.ofNode n)) := by
    intro n hn
    rw [note_createNode_of_mem asked (List.mem_map_of_mem hn)]
    exact hall n hn
  intro n hn
  rcases after_createNode asked (s := s) with hsame | ⟨given, fields, rfl, haccepts, written⟩
  · rw [hsame] at hn
    exact hold n hn
  · have hnodes := Store.nodes_addNode written
    rcases List.mem_cons.mp (hnodes.mem_iff.mp hn) with hnew | hn'
    · have hrows := ((c.effect s).keyedTables hs).nodup_rows
      rw [Store.rows, (hnodes.map Query.Row.ofNode).nodup_iff, List.map_cons,
        List.nodup_cons] at hrows
      have hrow : Query.Row.ofNode n ∈ (c.after s).rows ∧ Query.Row.ofNode n ∉ s.rows :=
        ⟨List.mem_map_of_mem hn, hnew ▸ hrows.1⟩
      simp only [note, asked, if_pos hrow]
      exact hnew ▸ .ofBody haccepts _ _ _
    · exact hold n hn'

end Create

section Update
variable {id : Json} {given : Json.Object}
  (asked : c.operation = .updateNode username id (.obj given))
include asked

theorem note_updateNode (done : c.result s = .ok .done) (row : Query.Row) :
    c.note s ledger row =
      if s.editedRow? username id = some row then Entries.overriddenBy (ledger row) given
      else ledger row := by
  have hok : (Except.ok Reply.done : Except Failure Reply).isOk = true := rfl
  simp only [note, asked, done, hok, true_and]

theorem shows_patched (hs : s.KeyedTables) {target : String} {n : Node} {rest : List Node}
    {patch : Body.Patch String} (done : c.result s = .ok .done)
    (named : Identifier.parse (some "node_id") id = .ok target)
    (found : Query.fetch s (Query.editPlan target username) = .ok (n :: rest))
    (checked : Body.checkPatch c.limits s n.kind (.obj given) = .ok patch.raw)
    (written : c.after s = s.replaceNode (Nodes.applyPatch c.now patch n))
    (hall : ∀ n ∈ s.nodes, n.Shows (ledger (Query.Row.ofNode n))) :
    ∀ k ∈ (c.after s).nodes, k.Shows (c.note s ledger (Query.Row.ofNode k)) := by
  have hn : n ∈ s.nodes := Query.mem_of_fetch found List.mem_cons_self
  have hrow : Query.Row.ofNode (Nodes.applyPatch c.now patch n) = Query.Row.ofNode n := by
    rw [Query.Row.ofNode, Nodes.id_applyPatch, Nodes.kind_applyPatch, ← Query.Row.ofNode]
  have hedited := Store.editedRow?_of_fetch hs named found
  have hkeyed := (c.effect s).keyedTables hs
  intro k hk
  rw [note_updateNode asked done, hedited]
  by_cases hsame : Query.Row.ofNode k = Query.Row.ofNode n
  · have hpatched : Nodes.applyPatch c.now patch n ∈ (c.after s).nodes := by
      rw [written]
      exact Store.mem_replaceNode_self hn c.now patch
    cases hkeyed.eq_of_row hk hpatched (hsame.trans hrow.symm)
    rw [hrow, if_pos rfl]
    refine (hall n hn).applyPatch c.now checked ?_
    rintro m rfl
    exact hs.kinds m (Store.mem_nodes_metaNode.mp hn)
  · rw [if_neg fun h => hsame (Option.some.inj h).symm]
    rw [written] at hk
    rcases Store.mem_replaceNode hk with hold | rfl
    · exact hall k hold
    · exact absurd hrow hsame

end Update

theorem shows_updateNode {id body : Json} (hs : s.KeyedTables)
    (asked : c.operation = .updateNode username id body)
    (hall : ∀ n ∈ s.nodes, n.Shows (ledger (Query.Row.ofNode n))) :
    ∀ n ∈ (c.after s).nodes, n.Shows (c.note s ledger (Query.Row.ofNode n)) := by
  cases hupdate : Nodes.update c.limits c.now username id body s with
  | error e =>
    have hfails : c.result s = .error e ∧ c.after s = s := by
      simp only [result, after, run, asked, Operation.run, hupdate]
      exact ⟨rfl, rfl⟩
    have hnote : c.note s ledger = ledger := by
      have herror : (Except.error e : Except Failure Reply).isOk = false := rfl
      cases body <;>
        simp only [note, asked, hfails.1, herror, Bool.false_eq_true, false_and, if_false]
    rw [hnote, hfails.2]
    exact hall
  | ok t =>
    obtain ⟨done, hafter⟩ := (updateNode_eq_ok asked).mpr ⟨rfl, hupdate⟩
    rcases Nodes.update_cases hupdate with
      ⟨hempty, hsame⟩ | ⟨target, n, rest, patch, named, _, found, checked, written⟩
    · have hnote : c.note s ledger = ledger := by
        cases body with
        | obj given =>
          cases given with
          | nil =>
            funext row
            rw [note_updateNode asked done]
            exact ite_self _
          | cons => cases hempty
        | _ => cases hempty
      rw [hnote, hafter, hsame]
      exact hall
    · cases body with
      | obj given =>
        exact shows_patched asked hs done named found checked (hafter.trans written) hall
      | _ => simp [Body.checkPatch] at checked

theorem shows_other (hcreate : ∀ username body, c.operation ≠ .createNode username body)
    (hupdate : ∀ username id body, c.operation ≠ .updateNode username id body)
    (hall : ∀ n ∈ s.nodes, n.Shows (ledger (Query.Row.ofNode n))) :
    ∀ n ∈ (c.after s).nodes, n.Shows (c.note s ledger (Query.Row.ofNode n)) := by
  have hnote : c.note s ledger = ledger := by
    unfold note
    split
    · exact absurd ‹_› (hcreate _ _)
    · exact absurd ‹_› (hupdate _ _ _)
    · rfl
  rw [hnote]
  have heffect := c.effect s
  generalize c.after s = t at heffect
  cases heffect with
  | nothing | register | amend => exact hall
  | create asked => exact absurd asked (hcreate _ _)
  | change asked => exact absurd asked (hupdate _ _ _)
  | dismiss =>
    intro n hn
    rw [Store.nodes_revokeGrants] at hn
    obtain ⟨k, hk, rfl⟩ := List.mem_map.mp hn
    rw [Query.Row.ofNode, Node.id_withoutGrants, Node.kind_withoutGrants]
    exact (hall k hk).withoutGrants _
  | remove =>
    intro n hn
    obtain ⟨k, hk, _, rfl⟩ := Store.mem_nodes_remove.mp hn
    rw [Query.Row.ofNode, Node.id_withoutContents, Node.kind_withoutContents]
    exact (hall k hk).withoutContents _

end Call

/-! ## Whole runs -/

/-- In every run the ledger tells the name of every node, and what tags a file has. -/
theorem Recorded.shows {allowed : Call → Store → Prop} {ledger : Ledger}
    (h : Recorded allowed s ledger) : ∀ n ∈ s.nodes, n.Shows (ledger (Query.Row.ofNode n)) := by
  induction h with
  | empty => exact fun n hn => absurd hn List.not_mem_nil
  | @call c s ledger run next ih =>
    have hs := run.reachable.keyedTables
    cases hop : c.operation with
    | createNode username body => exact Call.shows_createNode hop hs ih
    | updateNode username id body => exact Call.shows_updateNode hs hop ih
    | _ =>
      refine Call.shows_other ?_ ?_ ih
      · intro username body asked
        cases hop.symm.trans asked
      · intro username id body asked
        cases hop.symm.trans asked

namespace Sample

/-- What the run to the shelf wrote. -/
def shelfLedger : Ledger :=
  collect.note { users := members, files := [track] } (upload.note { users := members } fun _ => [])

theorem shelf_recorded : Recorded Call.Fresh shelf shelfLedger := by
  have hmembers : Recorded Call.Fresh { users := members } fun _ => [] :=
    .call (c := enrol 2 "bert" "bert@mail.org")
      (.call (c := enrol 1 "anna" "anna@mail.org") .empty (by decide)) (by decide)
  exact .call (c := collect) (.call (c := upload) hmembers (by decide)) (by decide)

end Sample

/-- The ledger has the tag as the request gave it, and the store has it in lower case. -/
example : Entries.get? (Sample.shelfLedger (Query.Row.ofNode (.file Sample.track))) "tags" =
    some (.strings ["Music"]) ∧ Sample.track.tags = ["music"] := ⟨rfl, rfl⟩

end FileShare

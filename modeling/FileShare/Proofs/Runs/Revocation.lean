import FileShare.Proofs.Runs.AccountCalls
import FileShare.Proofs.Runs.Courses
import FileShare.Proofs.Runs.Failures
import FileShare.Proofs.Runs.ReadBack

/-! # Revoked grants stay revoked

The end of an account takes away the grants to its name and changes nothing else of the nodes. From
then on, until a request grants something to the name again, whoever has the name sees and edits no
nodes but the own ones. A request for a new node can grant something although it fails: where no
node may be named in a request, the new node is stored and cannot be read back.
-/
namespace FileShare

def Operation.Offers (grantee : String) : Operation → Prop
  | createNode _ (.obj body) | updateNode _ _ (.obj body) =>
    ∃ entries, Json.Object.get body "permissions" = .obj entries ∧
      .text grantee ∈ Entries.names entries
  | _ => False

def Event.Grants (grantee : String) (e : Event) : Prop :=
  e.Succeeds ∧ e.call.operation.Offers grantee

/-- A new node that offers something to a grantee is asked for where no node may be named in a
request. -/
def Event.OffersUnread (grantee : String) (e : Event) : Prop :=
  (∃ maker body, e.call.operation = .createNode maker body) ∧
    e.call.operation.Offers grantee ∧ e.call.limits.maxItemsPerRequest < 1

def Store.Ungranted (grantee : String) (s : Store) : Prop :=
  ∀ n ∈ s.nodes, ∀ g ∈ n.permissions, g.1 ≠ grantee

/-! ## Grants come from bodies -/

namespace Body
variable {limits : Settings} {s : Store} {grants : Entries String}

theorem names_of_checkPermissions {isFile : Bool} {v : Json}
    (h : checkPermissions limits s isFile v = .ok grants) :
    ∃ entries, v = .obj entries ∧ ∀ g ∈ grants, .text g.1 ∈ Entries.names entries := by
  obtain ⟨entries, rfl, hchecked, _⟩ := checkPermissions_eq_ok.mp h
  refine ⟨entries, rfl, fun g hg => ?_⟩
  rw [names_of_checkGrant hchecked]
  exact List.mem_map_of_mem (List.mem_map_of_mem hg)

theorem Accepts.offers {body : Json.Object} {fields : NewNode String}
    (h : Accepts limits s body fields) (id owner : String) (now : Instant) :
    ∃ entries, Json.Object.get body "permissions" = .obj entries ∧
      ∀ g ∈ (Nodes.ofBody id owner now fields).permissions,
        .text g.1 ∈ Entries.names entries := by
  cases h with
  | file _ _ hgrants | metaNode _ _ _ _ hgrants =>
    obtain ⟨entries, hentries, hnames⟩ := names_of_checkPermissions hgrants
    exact ⟨entries, hentries, fun g hg => hnames g (mem_sortBy.mp hg)⟩

theorem checkPatch_offers {kind : String} {v : Json} {p : Patch String}
    (h : checkPatch limits s kind v = .ok p.raw) (hgrants : p.permissions = some grants) :
    ∃ body entries, v = .obj body ∧ Json.Object.get body "permissions" = .obj entries ∧
      ∀ g ∈ grants, .text g.1 ∈ Entries.names entries := by
  cases v with
  | obj body =>
    have hpresent : ∃ isFile,
        Fields.ifPresent body "permissions" (checkPermissions limits s isFile) =
          .ok (some grants) := by
      simp only [checkPatch] at h
      split at h
      · exact ⟨true, hgrants ▸ (checkFilePatch_accepts h).permissions⟩
      · exact ⟨false, hgrants ▸ (checkMetaPatch_accepts h).permissions⟩
    obtain ⟨isFile, hpresent⟩ := hpresent
    obtain ⟨w, hw, hchecked⟩ := Fields.ifPresent_eq_some.mp hpresent
    obtain ⟨entries, rfl, hnames⟩ := names_of_checkPermissions hchecked
    exact ⟨body, entries, rfl, by simp [Json.Object.get, hw], hnames⟩
  | _ => simp [checkPatch] at h

end Body

/-! ## What lasts -/

variable {c : Call} {s t : Store} {username : String}

theorem Effect.ungranted (h : Effect c s t) (hoffers : ¬ c.operation.Offers username)
    (hs : s.Ungranted username) : t.Ungranted username := by
  cases h with
  | nothing | register | amend => exact hs
  | dismiss =>
    intro n hn
    rw [Store.nodes_revokeGrants] at hn
    obtain ⟨k, hk, rfl⟩ := List.mem_map.mp hn
    rw [Node.permissions_withoutGrants]
    exact fun g hg => hs k hk g (List.mem_filter.mp hg).1
  | @create maker _ fields _ asked checked _ written =>
    obtain ⟨body, rfl, haccepts⟩ := Body.checkNew_accepts checked
    obtain ⟨entries, hentries, hnames⟩ := haccepts.offers c.drawn maker c.now
    intro n hn g hg
    rcases List.mem_cons.mp ((Store.nodes_addNode written).mem_iff.mp hn) with rfl | hold
    · rintro rfl
      rw [asked] at hoffers
      exact hoffers ⟨entries, hentries, hnames g hg⟩
    · exact hs n hold g hg
  | change asked _ _ found checked =>
    intro n hn g hg
    rcases Store.mem_replaceNode hn with hold | rfl
    · exact hs n hold g hg
    · rw [Nodes.permissions_applyPatch] at hg
      cases hgrants : Body.Patch.permissions _ with
      | none =>
        rw [hgrants] at hg
        exact hs _ (Query.mem_of_fetch found List.mem_cons_self) g hg
      | some grants =>
        obtain ⟨body, entries, rfl, hentries, hnames⟩ := Body.checkPatch_offers checked hgrants
        rw [hgrants] at hg
        rintro rfl
        rw [asked] at hoffers
        exact hoffers ⟨entries, hentries, hnames g (mem_sortBy.mp hg)⟩
  | remove =>
    intro n hn
    obtain ⟨k, hk, _, rfl⟩ := Store.mem_nodes_remove.mp hn
    rw [Node.permissions_withoutContents]
    exact hs k hk

/-- A call that offers something to the name and fails leaves the store, unless it cannot read back
what it stores. -/
theorem Call.ungranted (hs : s.KeyedTables) (hgrants : ¬ (c.event s).Grants username)
    (hread : ¬ (c.event s).OffersUnread username) (h : s.Ungranted username) :
    (c.after s).Ungranted username := by
  by_cases hoffers : c.operation.Offers username
  · have hkept : c.after s = s := by
      have hfails : ¬ (c.event s).Succeeds := fun hdone => hgrants ⟨hdone, hoffers⟩
      by_cases hcreates : ∃ maker body, c.operation = .createNode maker body
      · have hbatch : 1 ≤ c.limits.maxItemsPerRequest :=
          not_lt.mp fun hnone => hread ⟨hcreates, hoffers, hnone⟩
        obtain ⟨maker, body, asked⟩ := hcreates
        rcases createNode_answers hs asked hbatch with ⟨n, hn⟩ | hkept
        · exact absurd ⟨_, hn⟩ hfails
        · exact hkept
      · cases hresult : c.result s with
        | ok reply => exact absurd ⟨reply, hresult⟩ hfails
        | error e =>
          exact after_of_error hresult fun maker body asked => hcreates ⟨maker, body, asked⟩
    rwa [hkept]
  · exact (c.effect s).ungranted hoffers h

theorem Course.ungranted {events : List Event} (h : Course s events t) (hs : s.KeyedTables)
    (hu : s.Ungranted username)
    (hevents : ∀ e ∈ events, ¬ e.Grants username ∧ ¬ e.OffersUnread username) :
    t.KeyedTables ∧ t.Ungranted username := by
  refine h.lasting (P := fun t => t.KeyedTables ∧ t.Ungranted username) ⟨hs, hu⟩ hevents ?_
  rintro c t ⟨hgrants, hread⟩ ⟨ht, hu⟩
  exact ⟨(c.effect t).keyedTables ht, Call.ungranted ht hgrants hread hu⟩

/-! ## Only the own nodes -/

/-- What the user of a name may see, is shown and can change, belongs to that user. -/
structure Store.OnlyOwn (username : String) (s : Store) : Prop where
  rights : ∀ n ∈ s.nodes, n.VisibleTo username ∨ n.EditableBy username → n.owner = username
  shown : ∀ (c : Call) (ns : List Node),
    ((∃ ids, c.operation = .getNodes username ids) ∨
      ∃ after equality patterns, c.operation = .searchNodes username after equality patterns) →
    c.result s = .ok (.nodes ns) → ∀ n ∈ ns, n ∈ s.nodes ∧ n.owner = username
  changed : ∀ (c : Call) (id body : Json), c.operation = .updateNode username id body →
    Accounts.isEmptyObject body = false → (c.event s).Succeeds →
    ∃ n ∈ s.nodes, n.owner = username ∧ Identifier.parse (some "node_id") id = .ok n.id ∧
      ∃ p, c.after s = s.replaceNode (Nodes.applyPatch c.now p n)

namespace Store.Ungranted
variable (h : s.Ungranted username)
include h

theorem owner_of_visible {n : Node} (hn : n ∈ s.nodes) (hvisible : n.VisibleTo username) :
    n.owner = username := by
  rcases hvisible with howner | ⟨g, hg, hname⟩
  · exact howner
  · exact absurd hname (h n hn g hg)

theorem owner_of_editable {n : Node} (hn : n ∈ s.nodes) (heditable : n.EditableBy username) :
    n.owner = username := by
  rcases heditable with howner | hg
  · exact howner
  · exact absurd rfl (h n hn _ hg)

theorem owner_of_fetch (hs : s.KeyedTables) {p : Query.Plan} (hp : p.Answers)
    (hselects : ∀ n, p.selects n → n.VisibleTo username) {found : List Node}
    (hfound : Query.fetch s p = .ok found) : ∀ n ∈ found, n ∈ s.nodes ∧ n.owner = username := by
  intro n hn
  obtain ⟨hmem, hselected⟩ := (Query.fetch_eq_ok hs hp hfound).2 n hn
  exact ⟨hmem, h.owner_of_visible hmem (hselects n hselected)⟩

theorem owner_of_get (hs : s.KeyedTables) {limits : Settings} {ids : List Json}
    {found : List Node} (hfound : Nodes.get limits username ids s = .ok found) :
    ∀ n ∈ found, n ∈ s.nodes ∧ n.owner = username := by
  obtain ⟨_, _, hfound⟩ := Outcome.bind_eq_ok.mp hfound
  obtain ⟨_, _, hfound⟩ := Outcome.bind_eq_ok.mp hfound
  obtain ⟨wanted, _, hfound⟩ := Outcome.bind_eq_ok.mp hfound
  obtain ⟨nodes, hfetch, hfound⟩ := Outcome.bind_eq_ok.mp hfound
  split at hfound
  · cases hfound
    refine h.owner_of_fetch hs (Query.idPlan_answers wanted username) (fun n hn => ?_) hfetch
    rw [Query.idPlan_selects, Bool.and_eq_true, decide_eq_true_iff, decide_eq_true_iff] at hn
    exact hn.2
  · simp at hfound

theorem owner_of_search (hs : s.KeyedTables) {limits : Settings} {after equality patterns : Json}
    {found : List Node}
    (hfound : Nodes.search limits username after equality patterns s = .ok found) :
    ∀ n ∈ found, n ∈ s.nodes ∧ n.owner = username := by
  have hcompiled : ∃ m, Matcher.compile limits equality patterns = .ok m := by
    obtain ⟨_, _, hrest⟩ := Outcome.bind_eq_ok.mp hfound
    obtain ⟨m, hm, _⟩ := Outcome.bind_eq_ok.mp hrest
    exact ⟨m, hm⟩
  obtain ⟨m, hm⟩ := hcompiled
  obtain ⟨cursor, p, _, _, _, hp, hfetch⟩ := (Nodes.search_eq_ok hm).mp hfound
  obtain ⟨hterms, halts⟩ := Matcher.compile_checked hm
  obtain ⟨p', hp', _, hanswers, hselects, _⟩ :=
    Query.ofMatcher_reads hterms halts username limits.resultsPerPage cursor
  cases hp.symm.trans hp'
  refine h.owner_of_fetch hs hanswers (fun n hn => ?_) hfetch
  rw [hselects] at hn
  exact (Matcher.finds_iff.mp hn).1

/-- A change that succeeds is one of a node that the user owns. -/
theorem owner_of_update (hs : s.KeyedTables) {limits : Settings} {now : Instant} {id body : Json}
    (hbody : Accounts.isEmptyObject body = false)
    (hdone : Nodes.update limits now username id body s = .ok t) :
    ∃ n ∈ s.nodes, n.owner = username ∧ Identifier.parse (some "node_id") id = .ok n.id ∧
      ∃ p, t = s.replaceNode (Nodes.applyPatch now p n) := by
  rcases Nodes.update_cases hdone with ⟨hempty, _⟩ | ⟨target, n, _, p, htarget, _, hfetch, _, rfl⟩
  · rw [hbody] at hempty
    cases hempty
  · obtain ⟨hmem, hselected⟩ := (Query.fetch_eq_ok hs (Query.editPlan_answers target username)
      hfetch).2 n List.mem_cons_self
    rw [Query.editPlan_selects, Bool.and_eq_true, decide_eq_true_iff, decide_eq_true_iff]
      at hselected
    obtain ⟨rfl, heditable⟩ := hselected
    exact ⟨n, hmem, h.owner_of_editable hmem heditable, htarget, p, rfl⟩

theorem onlyOwn (hs : s.KeyedTables) : s.OnlyOwn username where
  rights n hn hright := hright.elim (h.owner_of_visible hn) (h.owner_of_editable hn)
  shown c ns asked hresult := by
    rcases asked with ⟨ids, asked⟩ | ⟨after, equality, patterns, asked⟩
    · exact h.owner_of_get hs (Call.get_of_answered asked hresult)
    · exact h.owner_of_search hs (Call.search_of_answered asked hresult)
  changed c id body asked hbody hdone := by
    obtain ⟨reply, hdone⟩ := hdone
    simp only [Call.event, Call.result, Call.after, Call.run, asked, Operation.run] at hdone ⊢
    cases hupdate : Nodes.update c.limits c.now username id body s with
    | error e =>
      rw [hupdate] at hdone
      cases hdone
    | ok t => exact h.owner_of_update hs hbody hupdate

end Store.Ungranted

/-! ## The rule -/

theorem Store.ungranted_revokeGrants (s : Store) (username : String) :
    (s.revokeGrants username).Ungranted username := by
  intro n hn g hg
  rw [nodes_revokeGrants] at hn
  obtain ⟨k, _, rfl⟩ := List.mem_map.mp hn
  rw [Node.permissions_withoutGrants] at hg
  simpa using (List.mem_filter.mp hg).2

theorem Call.after_deleteUser (hs : Accounts.Distinct s.users)
    (asked : c.operation = .deleteUser username) (hdone : (c.event s).Succeeds) :
    (c.after s).users = s.users.filter (fun v => v.username ≠ username) ∧
      (c.after s).nodes = s.nodes.map (Node.withoutGrants username) ∧
      (c.after s).Ungranted username := by
  obtain ⟨reply, hdone⟩ := hdone
  simp only [event, result, after, run, asked, Operation.run] at hdone ⊢
  cases hdelete : Accounts.delete username s with
  | error e =>
    rw [hdelete] at hdone
    cases hdone
  | ok t =>
    obtain ⟨u, hfound, rfl⟩ := Accounts.delete_eq_ok.mp hdelete
    obtain ⟨hu, rfl⟩ := Store.found_name hfound
    refine ⟨?_, Store.nodes_revokeGrants _ _, Store.ungranted_revokeGrants _ _⟩
    refine List.filter_congr fun v hv => ?_
    by_cases hname : v.username = u.username
    · simp [hs.eq_of_name hv hu hname]
    · have hid : v.id ≠ u.id := fun hid => hname (by rw [hs.eq_of_id hv hu hid])
      simp [hname, hid]

/-- A deletion of an account takes that account away and its grants from all nodes, and nothing
else. After it, as long as no request grants something to the name, one that has the name sees,
reads, finds and changes own nodes only. A request for a new node that is not read back counts as
one that grants, although it fails. -/
theorem revocation_lasts {allowed : Call → Store → Prop} (h : Reachable allowed s)
    (asked : c.operation = .deleteUser username) (hdone : (c.event s).Succeeds) :
    (c.after s).users = s.users.filter (fun v => v.username ≠ username) ∧
    (c.after s).nodes = s.nodes.map (Node.withoutGrants username) ∧
    ∀ events t, Course (c.after s) events t →
      (∀ e ∈ events, ¬ e.Grants username ∧ ¬ e.OffersUnread username) → t.OnlyOwn username := by
  obtain ⟨husers, hnodes, hungranted⟩ := Call.after_deleteUser h.distinct asked hdone
  refine ⟨husers, hnodes, fun events t hcourse hevents => ?_⟩
  have hkeyed := (c.effect s).keyedTables h.keyedTables
  obtain ⟨ht, hlasts⟩ := hcourse.ungranted hkeyed hungranted hevents
  exact hlasts.onlyOwn ht

/-- The user whose account ended comes back to the own directory, and to nothing else. -/
theorem revocation_lasts_sample :
    Reachable Call.Fresh Sample.shelf ∧ Sample.leave.operation = .deleteUser "bert" ∧
    (Sample.leave.event Sample.shelf).Succeeds ∧
    (Sample.leave.after Sample.shelf).users =
      Sample.shelf.users.filter (fun v => v.username ≠ "bert") ∧
    (Sample.leave.after Sample.shelf).nodes =
      Sample.shelf.nodes.map (Node.withoutGrants "bert") ∧
    Course (Sample.leave.after Sample.shelf)
      [Sample.rejoin.event (Sample.leave.after Sample.shelf)]
      (Sample.rejoin.after (Sample.leave.after Sample.shelf)) ∧
    (Sample.rejoin.after (Sample.leave.after Sample.shelf)).OnlyOwn "bert" := by
  have hdone : (Sample.leave.event Sample.shelf).Succeeds := ⟨.done, rfl⟩
  obtain ⟨husers, hnodes, hlasts⟩ := revocation_lasts Sample.shelf_reachable rfl hdone
  have hcourse := (Course.nil (s := Sample.leave.after Sample.shelf)).cons Sample.rejoin
  refine ⟨Sample.shelf_reachable, rfl, hdone, husers, hnodes, hcourse, ?_⟩
  refine hlasts _ _ hcourse fun e he => ?_
  cases List.mem_singleton.mp he
  exact ⟨fun hgrants => hgrants.2, fun hunread => hunread.2.1⟩

namespace Sample

def pair : Store := (narrow (enrol 2 "bert" "bert@mail.org")).after
  ((narrow (enrol 1 "anna" "anna@mail.org")).after {})

/-- The new account of a name that was free. -/
def newcomer : Store := (narrow rejoin).after ((narrow leave).after pair)

/-- Makes a file for another user to see. -/
def slip : Call := narrow (call 8 (.createNode "anna" (.obj [("type", .str "file"),
  ("name", .str "Tune"), ("text", .str "la la"), ("tags", .arr []), ("lock", .null),
  ("permissions", .obj [("bert", .str "view")])])))

def seek : Call := narrow (call 9 (.searchNodes "bert" .null .null .null))

end Sample

/-- The request for a file that is to be seen under the name fails, and the file is stored: one
whose account is newer than the deletion, and to whom no request that succeeded grants anything,
finds a file of another user. -/
theorem failed_request_grants :
    Reachable (fun c _ => c.limits = { Sample.limits with maxItemsPerRequest := 0 }) Sample.pair ∧
    (Sample.narrow Sample.leave).operation = .deleteUser "bert" ∧
    ((Sample.narrow Sample.leave).event Sample.pair).Succeeds ∧
    Course ((Sample.narrow Sample.leave).after Sample.pair)
      [Sample.slip.event Sample.newcomer,
        (Sample.narrow Sample.rejoin).event ((Sample.narrow Sample.leave).after Sample.pair)]
      (Sample.slip.after Sample.newcomer) ∧
    (¬ (Sample.slip.event Sample.newcomer).Grants "bert" ∧
      ¬ ((Sample.narrow Sample.rejoin).event
        ((Sample.narrow Sample.leave).after Sample.pair)).Grants "bert") ∧
    ∃ n, Sample.seek.result (Sample.slip.after Sample.newcomer) = .ok (.nodes [n]) ∧
      n.owner = "anna" := by
  refine ⟨?_, rfl, ⟨.done, rfl⟩, (Course.nil.cons _).cons _, ⟨?_, ?_⟩, ?_⟩
  · exact .call (.call .empty rfl) rfl
  · rintro ⟨⟨reply, hanswer⟩, _⟩
    cases hanswer
  · exact fun hgrants => hgrants.2
  · exact ⟨_, rfl, rfl⟩

end FileShare

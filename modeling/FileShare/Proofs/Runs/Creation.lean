import FileShare.Proofs.Runs.Grants
import FileShare.Proofs.Runs.ReadBack
import FileShare.Proofs.Runs.WriteBack
import FileShare.Proofs.ShownFields

/-! # New nodes

A valid request of a user stores one node and nothing else, and the node shows what the request
gave. The answer is the node as it is read back, and all who were granted something read the same.
Where a request may not name a single node it is rejected, though the node is stored, and a name or
a tag without a UTF-8 form is found to be one only when it is stored.
-/
namespace FileShare

/-- What a node derives from its name and from its text. -/
def Node.Derived : Node → Prop
  | file f => f.lowerName = Text.lower f.name ∧ f.size = f.text.utf8ByteSize
  | metaNode m => m.lowerName = Text.lower m.name

/-- A node is the one that a call of a user for a new node asks for. -/
structure Node.Made (c : Call) (username : String) (body : Json.Object) (n : Node) : Prop where
  id : n.id = c.drawn
  owner : n.owner = username
  kind : Json.Object.get body "type" = .str n.kind
  /-- The fields that can be edited show what the body gives. A lock may be absent from the body,
  which reads as null. -/
  given : ∀ field ∈ n.editableFields, Entries.get? n.publicFields field =
    some (Body.normal field (Json.Object.get body field))
  /-- The grants are those of the body, whatever their order. -/
  grants : ∃ entries, Json.Object.get body "permissions" = .obj entries ∧
    ∀ grantee : RawText,
      (grantee.utf8?.bind (Entries.get? n.permissions)).map .str = Entries.get? entries grantee
  derived : n.Derived
  created : Entries.get? n.publicFields "createdAt" = some (.int c.now.milliseconds)
  modified : n.kind = fileKind →
    Entries.get? n.publicFields "modifiedAt" = some (.int c.now.milliseconds)

variable {c : Call} {s : Store} {username : String} {body : Json} {fields : Body.NewNode String}

namespace Body

theorem get?_sortGrants {limits : Settings} {isFile : Bool} {v : Json} {grants : Entries String}
    (h : checkPermissions limits s isFile v = .ok grants) :
    ∃ entries, v = .obj entries ∧
      ∀ grantee : RawText, (grantee.utf8?.bind (Entries.get? (sortGrants grants))).map .str =
        Entries.get? entries grantee := by
  refine ⟨_, grantsToJson_of_checkPermissions h, fun grantee => ?_⟩
  cases grantee with
  | text name =>
    have hgiven := Entries.get?_map (fun _ _ => RawText.text.inj) Json.str grants name
    rw [hgiven, RawText.utf8?, Option.bind_some, sortGrants, Entries.get?_sorted]
  | unpaired before half after =>
    refine (Entries.get?_eq_none_iff.mpr fun hname => ?_).symm
    simp [Entries.names] at hname

/-- The texts of a new node that are not encoded before they are stored. -/
def NewNode.texts : NewNode RawText → List RawText
  | .file name _ tags _ _ => name :: tags
  | .metaNode _ name _ _ => [name]

/-- A new node can be stored, or one of its texts has no UTF-8 form. -/
theorem NewNode.eq_raw_iff {fields : NewNode RawText} :
    (∃ row : NewNode String, fields = row.raw) ↔ ∀ t ∈ fields.texts, t.utf8? ≠ none := by
  constructor
  · rintro ⟨row, rfl⟩
    cases row <;> simp [raw, texts, RawText.utf8?]
  · intro h
    cases fields with
    | file name text tags lock grants =>
      obtain ⟨hname, htags⟩ := List.forall_mem_cons.mp h
      obtain ⟨name, rfl⟩ := RawText.exists_text hname
      obtain ⟨tags, rfl⟩ := RawText.exists_texts htags
      exact ⟨.file name text tags lock grants, rfl⟩
    | metaNode kind name contents grants =>
      obtain ⟨name, rfl⟩ := RawText.exists_text (h name List.mem_cons_self)
      exact ⟨.metaNode kind name contents grants, rfl⟩

end Body

theorem Nodes.derived_ofBody (id owner : String) (now : Instant) (fields : Body.NewNode String) :
    (ofBody id owner now fields).Derived := by
  cases fields with
  | file => exact ⟨rfl, rfl⟩
  | metaNode => exact rfl

theorem Nodes.made_ofBody {body : Json.Object} (h : Body.Accepts c.limits s body fields)
    (username : String) : (ofBody c.drawn username c.now fields).Made c username body := by
  cases h with
  | file hkind hname hgrants htext htags hlock =>
    refine { id := rfl, owner := rfl, kind := hkind, given := ?_,
             grants := Body.get?_sortGrants hgrants, derived := derived_ofBody ..,
             created := rfl, modified := fun _ => rfl }
    simp only [Node.editableFields, ofBody, List.forall_mem_cons, Body.normal_of_checkName hname,
      Body.normal_of_checkText htext, Body.normal_of_checkTags htags,
      Body.normal_of_checkLock hlock, Body.normal_of_checkPermissions hgrants]
    exact ⟨rfl, rfl, rfl, rfl, rfl, fun _ h => absurd h List.not_mem_nil⟩
  | metaNode hkind _ hother hname hgrants hcontents =>
    refine { id := rfl, owner := rfl, kind := hkind, given := ?_,
             grants := Body.get?_sortGrants hgrants, derived := derived_ofBody ..,
             created := rfl, modified := fun hfile => absurd hfile hother }
    simp only [Node.editableFields, ofBody, List.forall_mem_cons, Body.normal_of_checkName hname,
      Body.normal_of_checkContents hcontents, Body.normal_of_checkPermissions hgrants]
    exact ⟨rfl, rfl, rfl, fun _ h => absurd h List.not_mem_nil⟩

/-! ## Valid requests -/

namespace Call

theorem stores (hfresh : c.Fresh s) (asked : c.operation = .createNode username body)
    (huser : s.hasUser username) (hvalid : Body.checkNew c.limits s body = .ok fields.raw) :
    s.addNode (Nodes.ofBody c.drawn username c.now fields) = some (c.after s) ∧
      c.result s = (Nodes.readBack c.limits username c.drawn (c.after s)).map .node := by
  have hmade := c.creation asked (s := s)
  generalize c.result s = outcome, c.after s = t at hmade ⊢
  cases hmade with
  | refused unmet => exact absurd huser (unmet fields.raw hvalid)
  | unstored checked _ failed =>
    cases hvalid.symm.trans checked
    rcases Nodes.insert_fails _ _ _ _ _ _ failed with ⟨_, htaken⟩ | ⟨_, hunfit⟩
    · exact absurd htaken (hfresh.not_hasNode asked)
    · exact absurd rfl (hunfit fields)
  | stored checked _ written =>
    have hsame := hvalid.symm.trans checked
    rw [Except.ok.injEq] at hsame
    obtain rfl := Body.NewNode.raw_injective hsame
    exact ⟨written, rfl⟩

theorem breaks (hfresh : c.Fresh s) (asked : c.operation = .createNode username body)
    (huser : s.hasUser username) {fields : Body.NewNode RawText}
    (hvalid : Body.checkNew c.limits s body = .ok fields)
    (hunfit : ∀ row : Body.NewNode String, fields ≠ row.raw) :
    c.result s = breakDown .notEncodable ∧ c.after s = s := by
  have hmade := c.creation asked (s := s)
  generalize c.result s = outcome, c.after s = t at hmade ⊢
  cases hmade with
  | refused unmet => exact absurd huser (unmet fields hvalid)
  | unstored _ _ failed =>
    rcases Nodes.insert_fails _ _ _ _ _ _ failed with ⟨_, htaken⟩ | ⟨rfl, _⟩
    · exact absurd htaken (hfresh.not_hasNode asked)
    · exact ⟨rfl, rfl⟩
  | stored checked =>
    cases hvalid.symm.trans checked
    exact absurd rfl (hunfit _)

end Call

/-- In every run, a valid request of a user for a new node, with a fresh identifier, stores the
node. It is answered with the node if a request may name one node. If not, it is rejected as naming
too many, although the node is stored. The exception is a request whose name or one of whose tags
has no UTF-8 form: it breaks down, and nothing is stored. -/
theorem valid_requests_make_nodes {allowed : Call → Store → Prop} (h : Reachable allowed s)
    (hfresh : c.Fresh s) (asked : c.operation = .createNode username body)
    (huser : s.hasUser username) {given : Body.NewNode RawText}
    (hvalid : Body.checkNew c.limits s body = .ok given) :
    ((∃ t ∈ given.texts, t.utf8? = none) →
      c.result s = breakDown .notEncodable ∧ c.after s = s) ∧
    ((∀ t ∈ given.texts, t.utf8? ≠ none) → ∃ fields : Body.NewNode String, given = fields.raw ∧
      s.addNode (Nodes.ofBody c.drawn username c.now fields) = some (c.after s) ∧
      c.result s = if 1 ≤ c.limits.maxItemsPerRequest then
        .ok (.node (Nodes.ofBody c.drawn username c.now fields))
      else reject (.tooMany "node_ids")) := by
  constructor
  · rintro ⟨t, ht, hnone⟩
    refine Call.breaks hfresh asked huser hvalid fun row hrow => ?_
    exact Body.NewNode.eq_raw_iff.mp ⟨row, hrow⟩ t ht hnone
  intro hfits
  obtain ⟨fields, rfl⟩ := Body.NewNode.eq_raw_iff.mpr hfits
  obtain ⟨written, hresult⟩ := Call.stores hfresh asked huser hvalid
  refine ⟨fields, rfl, written, ?_⟩
  rw [hresult]
  split
  · rename_i hbatch
    have hread := Nodes.get_added c.limits ((c.effect s).keyedTables h.keyedTables) written
      (by simpa using hfresh.not_hasNode asked) (by simpa using c.drawn_isNormal) huser
      (.inl (Nodes.owner_ofBody ..)) hbatch
    rw [Nodes.id_ofBody] at hread
    rw [Nodes.readBack, hread]
    rfl
  · rename_i hnone
    rw [Nodes.readBack_fails (not_le.mp hnone)]
    rfl

/-- One who shares a file is answered with it. -/
theorem valid_requests_make_nodes_sample :
    Reachable Call.Fresh { users := Sample.members } ∧
    Sample.upload.Fresh { users := Sample.members } ∧
    ∃ body given, Sample.upload.operation = .createNode "anna" body ∧
      Store.hasUser { users := Sample.members } "anna" ∧
      Body.checkNew Sample.limits { users := Sample.members } body = .ok given ∧
      Sample.upload.result { users := Sample.members } = .ok (.node (.file Sample.track)) := by
  have hrun : Reachable Call.Fresh { users := Sample.members } :=
    Sample.members_kept.mono fun _ _ => And.right
  have hfresh : Sample.upload.Fresh { users := Sample.members } := by decide
  have huser : Store.hasUser { users := Sample.members } "anna" := by decide
  obtain ⟨fields, hfields, _, hanswer⟩ :=
    (valid_requests_make_nodes hrun hfresh rfl huser rfl).2 (by decide)
  obtain rfl := Body.NewNode.raw_injective
    (show Body.NewNode.raw (.file "Song" "la la" ["Music"] .null [("bert", "view")]) = _ from
      hfields)
  exact ⟨hrun, hfresh, _, _, rfl, huser, rfl, hanswer⟩

theorem Sample.narrow_members :
    Reachable (fun c s => c.limits = { limits with maxItemsPerRequest := 0 } ∧ c.Fresh s)
      { users := members } := by
  refine .call (c := narrow (enrol 2 "bert" "bert@mail.org")) (s := { users := members.take 1 })
    ?_ ⟨rfl, by decide⟩
  exact .call (c := narrow (enrol 1 "anna" "anna@mail.org")) .empty ⟨rfl, by decide⟩

/-- Where a request may not name a node, the same request is rejected, and the file is stored. -/
theorem valid_request_rejected_sample :
    Reachable (fun c s => c.limits = { Sample.limits with maxItemsPerRequest := 0 } ∧ c.Fresh s)
      { users := Sample.members } ∧
    (Sample.narrow Sample.upload).Fresh { users := Sample.members } ∧
    ∃ body fields, (Sample.narrow Sample.upload).operation = .createNode "anna" body ∧
      Store.hasUser { users := Sample.members } "anna" ∧
      Body.checkNew (Sample.narrow Sample.upload).limits { users := Sample.members } body =
        .ok fields ∧
      (Sample.narrow Sample.upload).result { users := Sample.members } =
        reject (.tooMany "node_ids") ∧
      ((Sample.narrow Sample.upload).after { users := Sample.members }).nodes =
        [.file Sample.track] :=
  ⟨Sample.narrow_members, by decide, _, _, rfl, by decide, rfl, rfl, rfl⟩

/-! ## What is read back -/

theorem Nodes.get_unknown {limits : Settings} {id : Json}
    (hbatch : 1 ≤ limits.maxItemsPerRequest) (hnone : s.userNamed? username = none) :
    Nodes.get limits username [id] s = reject (.notFound (.str username) "user") := by
  have hunknown : Accounts.require s username = reject (.notFound (.str username) "user") := by
    rw [Accounts.require, hnone]
  rw [Nodes.get, checkBatch_one, if_pos hbatch, hunknown]
  rfl

/-- In every run, a request for a new node that is answered, with a fresh identifier, adds the
answered node and nothing else. The node shows what the request gave. It is what the user reads
under its identifier, and what everyone reads who was granted something. Grants to everyone name no
user, and under their name nothing is read. -/
theorem made_nodes_read_back {allowed : Call → Store → Prop} (h : Reachable allowed s)
    (hfresh : c.Fresh s) (asked : c.operation = .createNode username body) {reply : Reply}
    (hok : c.result s = .ok reply) :
    ∃ (given : Json.Object) (n : Node), body = .obj given ∧ reply = .node n ∧
      n.Made c username given ∧
      (c.after s).users = s.users ∧ (c.after s).nodes.Perm (n :: s.nodes) ∧
      Nodes.get c.limits username [.str n.id] (c.after s) = .ok [n] ∧
      ∀ g ∈ n.permissions, Nodes.get c.limits g.1 [.str n.id] (c.after s) =
        if g.1 = publicGrantee then reject (.notFound (.str publicGrantee) "user")
        else .ok [n] := by
  obtain ⟨fields, k, hchecked, hknown, written, hread, rfl⟩ := Call.created asked hok
  obtain ⟨given, rfl, haccepts⟩ := Body.checkNew_accepts hchecked
  have hkeyed := (c.effect s).keyedTables h.keyedTables
  have hgrants := Nodes.grants_ofBody haccepts c.drawn username c.now
  have hbatch : 1 ≤ c.limits.maxItemsPerRequest := by
    by_contra hnone
    rw [Nodes.readBack_fails (not_le.mp hnone)] at hread
    cases hread
  -- the account may be that of the user or that of a grantee
  have hget {name : String} (huser : s.hasUser name)
      (hsees : (Nodes.ofBody c.drawn username c.now fields).VisibleTo name) :
      Nodes.get c.limits name [.str (Nodes.ofBody c.drawn username c.now fields).id] (c.after s) =
        .ok [Nodes.ofBody c.drawn username c.now fields] :=
    Nodes.get_added c.limits hkeyed written (by simpa using hfresh.not_hasNode asked)
      (by simpa using c.drawn_isNormal) huser hsees hbatch
  have hown := hget hknown (.inl (Nodes.owner_ofBody ..))
  refine ⟨given, _, rfl, ?_, Nodes.made_ofBody haccepts username, Store.users_addNode written,
    Store.nodes_addNode written, hown, fun g hg => ?_⟩
  · rw [Nodes.id_ofBody] at hown
    rw [Nodes.readBack, hown] at hread
    cases hread
    rfl
  · split
    · rename_i hpublic
      rw [hpublic]
      refine Nodes.get_unknown hbatch ?_
      have hreserved : ¬ (c.after s).hasUser publicGrantee := by
        rw [Store.hasUser_addNode written]
        exact fun hname => h.unreserved.ne_public hname rfl
      simpa [Store.hasUser] using hreserved
    · rename_i hname
      exact hget (hgrants.known g hg hname) (.inr ⟨g, hg, rfl⟩)

/-- A file is opened to everyone and to a user, and that user reads it as its owner does. -/
theorem made_nodes_read_back_sample :
    Reachable Call.Fresh Sample.shelf ∧ Sample.post.Fresh Sample.shelf ∧
    Sample.post.result Sample.shelf = .ok (.node (.file Sample.tune)) ∧
    ∃ given, (Node.file Sample.tune).Made Sample.post "bert" given ∧
      (Sample.post.after Sample.shelf).nodes.Perm (.file Sample.tune :: Sample.shelf.nodes) ∧
      Nodes.get Sample.limits "bert" [.str Sample.tune.id] (Sample.post.after Sample.shelf) =
        .ok [.file Sample.tune] ∧
      Nodes.get Sample.limits "anna" [.str Sample.tune.id] (Sample.post.after Sample.shelf) =
        .ok [.file Sample.tune] := by
  have hfresh : Sample.post.Fresh Sample.shelf := by decide
  have hanswer : Sample.post.result Sample.shelf = .ok (.node (.file Sample.tune)) := rfl
  obtain ⟨given, n, _, hn, hmade, _, hnodes, hown, hgranted⟩ :=
    made_nodes_read_back Sample.shelf_reachable hfresh rfl hanswer
  cases hn
  have hanna : ("anna", "edit") ∈ (Node.file Sample.tune).permissions := by decide
  exact ⟨Sample.shelf_reachable, hfresh, hanswer, given, hmade, hnodes, hown,
    (hgranted _ hanna).trans (if_neg (by decide))⟩

/-- The same file is granted to everyone, and under that name it is not read. -/
theorem public_reads_nothing_sample :
    Reachable Call.Fresh Sample.shelf ∧ Sample.post.Fresh Sample.shelf ∧
    Sample.post.result Sample.shelf = .ok (.node (.file Sample.tune)) ∧
    ("public", "view") ∈ (Node.file Sample.tune).permissions ∧
    Nodes.get Sample.limits "public" [.str Sample.tune.id] (Sample.post.after Sample.shelf) =
      reject (.notFound (.str "public") "user") :=
  ⟨Sample.shelf_reachable, by decide, rfl, by decide, rfl⟩

end FileShare

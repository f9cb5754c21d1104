import FileShare.Proofs.AcceptedFields
import FileShare.Proofs.Runs.Contents
import FileShare.Proofs.Runs.Drawing
import FileShare.Proofs.Search.Lookups
import FileShare.Proofs.Search.Requests

/-! # Deleted identifiers stay gone

A deletion takes an identifier out of both tables and out of all contents. It could come back only
with a row, and rows have drawn identifiers; contents take the identifiers of rows only. So it stays
away as long as it is not drawn once more.
-/
namespace FileShare

namespace Operation

/-- The operation asks for the node of an identifier, in letters of either case. -/
def Names (id : String) : Operation → Prop
  | getNodes _ ids => ∃ text, .str text ∈ ids ∧ Text.lower text = id
  | _ => False

/-- The operation is to put an identifier, in letters of either case, into contents. -/
def Encloses (id : String) : Operation → Prop
  | createNode _ (.obj body) | updateNode _ _ (.obj body) =>
    ∃ items text, Json.Object.get body "contents" = .arr items ∧ .str text ∈ items ∧
      Text.lower text = id
  | _ => False

end Operation

/-- Nothing of the identifier is left, and whatever asks for it fails. -/
structure Store.Without (id : String) (s : Store) : Prop where
  files : ∀ f ∈ s.files, f.id ≠ id
  metas : ∀ m ∈ s.metas, m.id ≠ id
  contents : ∀ m ∈ s.metas, id ∉ m.contents
  unread : ∀ c : Call, c.operation.Names id → ∃ e, c.result s = .error e
  unenclosed : ∀ c : Call, c.operation.Encloses id → ∃ e, c.result s = .error e

def Call.Deletes (c : Call) (s : Store) (id : String) : Prop :=
  (∃ username ids, c.operation = .deleteNodes username ids) ∧ s.hasNode id ∧
    ¬ (c.after s).hasNode id

/-! ## Contents name nodes -/

namespace Body
variable {limits : Settings} {s : Store} {body : Json.Object} {items : List Json} {text : String}

theorem hasNode_of_checkContents {kind : String} {ids : List String}
    (h : checkContents limits s kind (.arr items) = .ok ids) (hitem : .str text ∈ items) :
    s.hasNode (Text.lower text) := by
  obtain ⟨_, parsed, ⟨⟩, _, hparsed, hall, _⟩ := checkContents_eq_ok.mp h
  obtain ⟨id, hid, hparse⟩ := Outcome.exists_mem_of_forall₂ hparsed.flip hitem
  obtain ⟨_, htext, _, rfl⟩ := Identifier.parse_eq_ok.mp hparse
  cases htext
  exact hall _ hid

section Given
variable (hcontents : Json.Object.get body "contents" = .arr items)
include hcontents

theorem mem_names_of_contents : .text "contents" ∈ Entries.names body :=
  mem_names_of_get (by simp [hcontents])

variable (hitem : .str text ∈ items)
include hitem

theorem Accepts.hasNode_of_contents {fields : NewNode String} (h : Accepts limits s body fields) :
    s.hasNode (Text.lower text) := by
  cases h with
  | file _ _ _ _ _ _ hknown =>
    have hallowed := Fields.checkKnown_eq_ok.mp hknown _ (mem_names_of_contents hcontents)
    exact absurd hallowed (by decide)
  | metaNode _ _ _ _ _ hchecked =>
    rw [hcontents] at hchecked
    exact hasNode_of_checkContents hchecked hitem

theorem hasNode_of_checkPatch {kind : String} {p : Patch String}
    (h : checkPatch limits s kind (.obj body) = .ok p.raw) : s.hasNode (Text.lower text) := by
  simp only [checkPatch] at h
  split at h
  · have hallowed := Fields.checkKnown_eq_ok.mp (checkFilePatch_accepts h).known _
      (mem_names_of_contents hcontents)
    exact absurd hallowed (by decide)
  · have hpresent := get?_of_get hcontents (by simp)
    have hchecked := (checkMetaPatch_accepts h).contents
    simp only [Fields.ifPresent, hpresent] at hchecked
    obtain ⟨ids, hids, _⟩ := Outcome.map_eq_ok.mp hchecked
    exact hasNode_of_checkContents hids hitem

end Given
end Body

/-! ## Requests for what is not there -/

theorem Nodes.hasNode_of_get {limits : Settings} {username text : String} {ids : List Json}
    {s : Store} (hs : s.Keyed) {found : List Node} (h : get limits username ids s = .ok found)
    (htext : .str text ∈ ids) : s.hasNode (Text.lower text) := by
  obtain ⟨wanted, hwanted, hlength, hdescending, hfound⟩ := found_of_get hs h
  have hsubset : found.map Node.id ⊆ wanted :=
    List.forall_mem_map.mpr fun n hn => (hfound n hn).2.1
  -- As many distinct identifiers as are wanted, and all of them wanted: none is left out.
  have hall : (found.map Node.id).Perm wanted :=
    (hdescending.nodup_ids.subperm hsubset).perm_of_length_le (by simp [hlength])
  obtain ⟨n, hn, hid⟩ := List.mem_map.mp
    (hall.mem_iff.mpr (Identifier.mem_of_parseAll hwanted htext))
  exact Store.hasNode_iff.mpr ⟨n, (hfound n hn).1, hid⟩

theorem Nodes.hasNode_of_update {limits : Settings} {now : Instant} {username text : String}
    {id : Json} {body : Json.Object} {items : List Json} {s t : Store}
    (hcontents : Json.Object.get body "contents" = .arr items) (hitem : .str text ∈ items)
    (h : update limits now username id (.obj body) s = .ok t) : s.hasNode (Text.lower text) := by
  rcases update_cases h with ⟨hempty, _⟩ | ⟨_, n, _, patch, _, _, _, hpatch, _⟩
  · cases body with
    | nil => simp [Json.Object.get, Entries.get?] at hcontents
    | cons => cases hempty
  · exact Body.hasNode_of_checkPatch hcontents hitem hpatch

namespace Call
variable {c : Call} {s : Store} {id : String}

theorem names_fails (hs : s.Keyed) (hid : ¬ s.hasNode id) (h : c.operation.Names id) :
    ∃ e, c.result s = .error e := by
  cases hresult : c.result s with
  | error e => exact ⟨e, rfl⟩
  | ok reply =>
    refine absurd ?_ hid
    unfold result run at hresult
    cases hop : c.operation with
    | getNodes username ids =>
      rw [hop] at h hresult
      obtain ⟨text, htext, rfl⟩ := h
      obtain ⟨found, hget, _⟩ := Outcome.map_eq_ok.mp hresult
      exact Nodes.hasNode_of_get hs hget htext
    | _ => simp [hop, Operation.Names] at h

theorem encloses_fails (hid : ¬ s.hasNode id) (h : c.operation.Encloses id) :
    ∃ e, c.result s = .error e := by
  cases hresult : c.result s with
  | error e => exact ⟨e, rfl⟩
  | ok reply =>
    refine absurd ?_ hid
    cases hop : c.operation with
    | createNode username v =>
      cases v with
      | obj body =>
        rw [hop] at h
        obtain ⟨items, text, hcontents, hitem, rfl⟩ := h
        obtain ⟨fields, n, hchecked, _⟩ := created hop hresult
        obtain ⟨_, ⟨⟩, haccepts⟩ := Body.checkNew_accepts hchecked
        exact haccepts.hasNode_of_contents hcontents hitem
      | _ => simp [hop, Operation.Encloses] at h
    | updateNode username target v =>
      cases v with
      | obj body =>
        rw [hop] at h
        obtain ⟨items, text, hcontents, hitem, rfl⟩ := h
        simp only [result, run, hop, Operation.run] at hresult
        obtain ⟨⟨t, hupdate⟩, _⟩ := Operation.writing_eq_ok hresult
        exact Nodes.hasNode_of_update hcontents hitem hupdate
      | _ => simp [hop, Operation.Encloses] at h
    | _ => simp [hop, Operation.Encloses] at h

end Call

theorem Store.Sound.without {s : Store} (h : s.Sound) (hs : s.Keyed) {id : String}
    (hid : ¬ s.hasNode id) : s.Without id where
  files f hf hsame := hid (hasNode_iff.mpr ⟨.file f, mem_nodes_file.mpr hf, hsame⟩)
  metas m hm hsame := hid (hasNode_iff.mpr ⟨.metaNode m, mem_nodes_metaNode.mpr hm, hsame⟩)
  contents m hm hmem := hid ((h (.metaNode m) (mem_nodes_metaNode.mpr hm)).exist id hmem)
  unread _ := Call.names_fails hs hid
  unenclosed _ := Call.encloses_fails hid

/-! ## Deletions -/

theorem Call.Deletes.users {c : Call} {s : Store} {id : String} (h : c.Deletes s id) :
    (c.after s).users = s.users := by
  obtain ⟨⟨username, ids, asked⟩, _⟩ := h
  exact users_after (by rw [asked]; rfl)

theorem Call.Deletes.spent {c : Call} {s : Store} {id : String} (h : c.Deletes s id) :
    c.spent s = [] := by
  obtain ⟨⟨username, ids, asked⟩, _⟩ := h
  have hkept : (c.run s).2.generator = c.generator := by
    simp only [run, asked]
    exact Operation.generator_writing _ _
  exact if_neg (not_not.mpr hkept)

/-- Let no identifier be drawn twice in a run. Once a deletion has taken the node of an identifier
away, no row has the identifier, no contents hold it, and no request for it and no request to put
it into contents succeeds, in whatever case it is written and however the run goes on. -/
theorem deleted_ids_stay_gone {s t : Store} {before later : List String} {c : Call} {id : String}
    (earlier : Drawing {} before s) (deletes : c.Deletes s id)
    (onward : Drawing (c.after s) later t) (fresh : (later ++ before).Nodup) : t.Without id := by
  have hdeleted : Drawing {} before (c.after s) := by
    have hcall := earlier.call c
    rwa [deletes.spent] at hcall
  have hrun : Drawing {} (later ++ before) t := hdeleted.trans onward
  obtain ⟨hlater, hbefore, hapart⟩ := List.nodup_append.mp fresh
  have hrow : id ∈ s.nodes.map Node.id := Store.hasNode_iff_mem.mp deletes.2.1
  have hspent : id ∈ before := earlier.mem_of_rowId (List.mem_append_right _ hrow)
  -- The rows of the three tables differ, so no account has the identifier either.
  have huser : id ∉ s.users.map User.id := fun huser =>
    (List.nodup_append.mp (earlier.nodup_rowIds hbefore)).2.2 id huser id hrow rfl
  have hgone : id ∉ (c.after s).rowIds := by
    rw [Store.rowIds, List.mem_append, deletes.users, ← Store.hasNode_iff_mem]
    exact not_or.mpr ⟨huser, deletes.2.2⟩
  refine (hrun.reachable .empty).sound.without (hrun.keyed fresh) fun hback => ?_
  have hdrawn := onward.rowIds.subset (List.mem_append_right _ (Store.hasNode_iff_mem.mp hback))
  rcases List.mem_append.mp hdrawn with hdrawn | hkept
  · exact hapart id hdrawn id hspent rfl
  · exact hgone hkept

namespace Sample

/-- What the run to the shelf drew, the last one first. -/
def shelfIds : List String := ["5f5e10000000000007000004", "5f5e10000000000007000003",
  "5f5e10000000000007000002", "5f5e10000000000007000001"]

theorem shelf_drawing : Drawing {} shelfIds shelf :=
  (((Drawing.start.call (enrol 1 "anna" "anna@mail.org")).call
    (enrol 2 "bert" "bert@mail.org")).call upload).call collect

theorem discard_deletes : discard.Deletes shelf track.id :=
  ⟨⟨_, _, rfl⟩, by decide, by decide⟩

theorem post_drawing : Drawing (discard.after shelf) ["5f5e10000000000007000005"]
    (post.after (discard.after shelf)) :=
  Drawing.start.call post

end Sample

/-- The file that the directory holds is deleted, and another one is made. -/
theorem deleted_ids_stay_gone_sample :
    Drawing {} Sample.shelfIds Sample.shelf ∧
    Sample.discard.Deletes Sample.shelf Sample.track.id ∧
    Drawing (Sample.discard.after Sample.shelf) ["5f5e10000000000007000005"]
      (Sample.post.after (Sample.discard.after Sample.shelf)) ∧
    (["5f5e10000000000007000005"] ++ Sample.shelfIds).Nodup ∧
    (Sample.post.after (Sample.discard.after Sample.shelf)).Without Sample.track.id :=
  ⟨Sample.shelf_drawing, Sample.discard_deletes, Sample.post_drawing, by decide,
    deleted_ids_stay_gone Sample.shelf_drawing Sample.discard_deletes Sample.post_drawing
      (by decide)⟩

end FileShare

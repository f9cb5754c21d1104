import FileShare.Proofs.IdentifierLists
import FileShare.Proofs.Runs.Identity

/-! # What a deletion takes away

A deletion goes over the tables twice: it takes the named nodes away that the user owns, and then
it takes their identifiers out of the contents of all nodes that are left. Identifiers of nobody and
of nodes of others are passed over. What it takes away is gone at once, so a second deletion of
the same identifiers finds nothing.
-/
namespace FileShare

variable {c : Call} {s : Store} {username : String}

namespace Store
variable {owner : String} {ids : List String}

theorem filter_notMem_ownedAmong (hids : (s.nodes.map Node.id).Nodup) :
    (s.nodes.filter fun n => !(n.id ∈ ids && n.owner = owner)) =
      s.nodes.filter fun n => n.id ∉ s.ownedAmong owner ids := by
  refine List.filter_congr fun n hn => ?_
  rw [Bool.eq_iff_iff, Bool.not_eq_true', ← Bool.not_eq_true, Bool.and_eq_true, decide_eq_true_iff,
    decide_eq_true_iff, decide_eq_true_iff, not_iff_not, mem_ownedAmong]
  constructor
  · rintro ⟨hnamed, howner⟩
    exact ⟨n, hn, rfl, hnamed, howner⟩
  · rintro ⟨k, hk, hid, hnamed, howner⟩
    cases List.inj_on_of_nodup_map hids hk hn hid
    exact ⟨hnamed, howner⟩

theorem ownedAmong_remove (s : Store) (owner : String) (ids : List String) :
    ((s.removeOwned owner ids).pullFromContents (s.ownedAmong owner ids)).ownedAmong owner ids =
      [] := by
  rw [List.eq_nil_iff_forall_not_mem]
  intro id hid
  obtain ⟨n, hn, rfl, hnamed, howner⟩ := mem_ownedAmong.mp hid
  obtain ⟨k, _, hstays, rfl⟩ := mem_nodes_remove.mp hn
  rw [Node.id_withoutContents] at hnamed
  rw [Node.owner_withoutContents] at howner
  exact hstays ⟨hnamed, howner⟩

theorem remove_of_none (h : s.ownedAmong owner ids = []) :
    (s.removeOwned owner ids).pullFromContents (s.ownedAmong owner ids) = s := by
  have hother : ∀ n ∈ s.nodes, ¬ (n.id ∈ ids ∧ n.owner = owner) := by
    intro n hn hmatch
    have hmem : n.id ∈ s.ownedAmong owner ids := mem_ownedAmong.mpr ⟨n, hn, rfl, hmatch⟩
    rw [h] at hmem
    exact List.not_mem_nil hmem
  have hfiles : s.files.filter (fun f => !(f.id ∈ ids && f.owner = owner)) = s.files := by
    rw [List.filter_eq_self]
    intro f hf
    have hstays : ¬ (f.id ∈ ids ∧ f.owner = owner) := hother (.file f) (mem_nodes_file.mpr hf)
    simpa [imp_iff_not_or] using hstays
  have hmetas : s.metas.filter (fun m => !(m.id ∈ ids && m.owner = owner)) = s.metas := by
    rw [List.filter_eq_self]
    intro m hm
    have hstays : ¬ (m.id ∈ ids ∧ m.owner = owner) :=
      hother (.metaNode m) (mem_nodes_metaNode.mpr hm)
    simpa [imp_iff_not_or] using hstays
  have hremoved : s.removeOwned owner ids = s := by
    rw [removeOwned, hfiles, hmetas]
  rw [h, hremoved]
  simp [pullFromContents]

end Store

theorem Call.after_deleteNodes {ids : List Json}
    (asked : c.operation = .deleteNodes username ids) :
    c.after s = s ∨ ∃ named, Identifier.parseAll (some "node_ids") ids = .ok named ∧
      c.after s =
        (s.removeOwned username named).pullFromContents (s.ownedAmong username named) := by
  have heffect := c.effect s
  generalize c.after s = t at heffect ⊢
  cases heffect with
  | nothing => exact .inl rfl
  | remove asked' parsed =>
    cases asked.symm.trans asked'
    exact .inr ⟨_, parsed, rfl⟩
  | register asked' | amend asked' | dismiss asked' | create asked' | change asked' =>
    cases asked.symm.trans asked'

/-- A user who names few enough well-formed identifiers is answered, whatever they name. -/
theorem Call.deleteNodes_eq {texts : List String} (known : s.hasUser username)
    (valid : ∀ text ∈ texts, Identifier.isValid text)
    (few : (texts.length : Int) ≤ c.limits.maxItemsPerRequest)
    (asked : c.operation = .deleteNodes username (texts.map .str)) :
    c.result s = .ok .done ∧ c.after s =
      (s.removeOwned username ((texts.map Text.lower).eraseDups)).pullFromContents
        (s.ownedAmong username ((texts.map Text.lower).eraseDups)) := by
  have hbatch : Nodes.checkBatch c.limits (texts.map .str) = .ok () := by
    rw [Nodes.checkBatch_eq_ok, List.length_map]
    exact few
  have hknown : discard (Accounts.require s username) = .ok () :=
    Accounts.discard_require_eq_ok.mpr known
  have hdelete : Nodes.delete c.limits username (texts.map .str) s =
      .ok ((s.removeOwned username ((texts.map Text.lower).eraseDups)).pullFromContents
        (s.ownedAmong username ((texts.map Text.lower).eraseDups))) := by
    simp only [Nodes.delete, hbatch, Identifier.parseAll_texts _ valid, hknown, Outcome.ok_bind]
    rfl
  simp only [result, after, run, asked, Operation.run, hdelete]
  exact ⟨rfl, rfl⟩

/-- Where identifiers are distinct, a deletion of well-formed identifiers succeeds. It takes away
the nodes that they name in whatever case and that the user owns; it takes the identifiers of these
out of the contents of the nodes that are left, and changes nothing else. The same request changes
nothing when it comes again. -/
theorem deletions_are_exact {texts : List String} (hids : (s.nodes.map Node.id).Nodup)
    (known : s.hasUser username) (valid : ∀ text ∈ texts, Identifier.isValid text)
    (few : (texts.length : Int) ≤ c.limits.maxItemsPerRequest)
    (asked : c.operation = .deleteNodes username (texts.map .str)) :
    ∃ gone : List String,
      (∀ id, id ∈ gone ↔
        ∃ n ∈ s.nodes, n.id = id ∧ id ∈ texts.map Text.lower ∧ n.owner = username) ∧
      c.result s = .ok .done ∧
      (c.after s).users = s.users ∧
      (c.after s).nodes = (s.nodes.filter fun n => n.id ∉ gone).map (Node.withoutContents gone) ∧
      ∀ again : Call, again.operation = c.operation → again.after (c.after s) = c.after s := by
  obtain ⟨hdone, hafter⟩ := Call.deleteNodes_eq known valid few asked
  refine ⟨s.ownedAmong username ((texts.map Text.lower).eraseDups), ?_, hdone, ?_, ?_, ?_⟩
  · intro id
    simp only [Store.mem_ownedAmong, List.mem_eraseDups]
  · rw [hafter]
    rfl
  · rw [hafter, Store.nodes_remove, Store.filter_notMem_ownedAmong hids]
  · intro again same
    rcases again.after_deleteNodes (s := c.after s) (same.trans asked) with
      hnothing | ⟨named, hnamed, hremoved⟩
    · exact hnothing
    · rw [Identifier.parseAll_texts _ valid] at hnamed
      cases hnamed
      have hnone : (c.after s).ownedAmong username ((texts.map Text.lower).eraseDups) = [] := by
        rw [hafter, Store.ownedAmong_remove]
      rw [hremoved, Store.remove_of_none hnone]

namespace Sample

/-- A directory that holds itself. -/
def box : MetaNode :=
  .ofFields "5f1d7a00aa00bb00cc000021" "directory" "bert" 5000 "Box"
    ["5f1d7a00aa00bb00cc000021", "5f1d7a00aa00bb00cc000020"] []

def attic : Store := { store with metas := [album, box] }

/-- A file of the user in both cases, a file of another user, a directory, and nothing. -/
def unwanted : List String :=
  ["5F1D7A00AA00BB00CC000011", "5f1d7a00aa00bb00cc000010", "5f1d7a00aa00bb00cc000011",
    "5f1d7a00aa00bb00cc000021", "5f1d7a00aa00bb00cc0000ff"]

def clearOut : Call := call 5 (.deleteNodes "bert" (unwanted.map .str))

end Sample

/-- The file and the directory go; the album of the other user loses the file and keeps the song. -/
theorem deletions_are_exact_sample :
    (Sample.attic.nodes.map Node.id).Nodup ∧ Sample.attic.hasUser "bert" ∧
    (∀ text ∈ Sample.unwanted, Identifier.isValid text) ∧
    (Sample.clearOut.after Sample.attic).metas =
      [{ Sample.album with contents := ["5f1d7a00aa00bb00cc000010"] }] ∧
    ∃ gone : List String,
      (∀ id, id ∈ gone ↔ ∃ n ∈ Sample.attic.nodes, n.id = id ∧
        id ∈ Sample.unwanted.map Text.lower ∧ n.owner = "bert") ∧
      Sample.clearOut.result Sample.attic = .ok .done ∧
      (Sample.clearOut.after Sample.attic).users = Sample.attic.users ∧
      (Sample.clearOut.after Sample.attic).nodes =
        (Sample.attic.nodes.filter fun n => n.id ∉ gone).map (Node.withoutContents gone) ∧
      ∀ again : Call, again.operation = Sample.clearOut.operation →
        again.after (Sample.clearOut.after Sample.attic) = Sample.clearOut.after Sample.attic := by
  have hids : (Sample.attic.nodes.map Node.id).Nodup := by decide
  have hvalid : ∀ text ∈ Sample.unwanted, Identifier.isValid text := by decide
  exact ⟨hids, rfl, hvalid, by decide, deletions_are_exact hids rfl hvalid (by decide) rfl⟩

end FileShare

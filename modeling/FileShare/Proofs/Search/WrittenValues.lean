import FileShare.Proofs.Runs.LastWrites
import FileShare.Proofs.Search.Grammar
import FileShare.Proofs.Search.Splits

/-! # Written values are found

Tags and names are brought to lower case when they are written, and again when a matcher asks for
them. Both are the same full lower case of whole texts, so a node is found by every text that agrees
with a written one in lower case, and by no other.
-/
namespace FileShare

variable {limits : Settings} {s : Store} {username : String}

/-! ## Two matchers -/

namespace Matcher

def ofTags (tags : List String) : Matcher :=
  { terms := [.anyOf "tags" (normalizeRawTags (tags.map .text))] }

def ofName (name : String) : Matcher :=
  { terms := [.equals lowerNameField (.str (Text.lower name))] }

theorem compile_tags {tags : List String} (few : (tags.length : Int) ≤ limits.maxSearchableTags) :
    compile limits (.obj [("tags", .strings tags)]) .null = .ok (ofTags tags) := by
  have hentry : equalityEntry limits false "tags" (.strings tags) =
      .ok { terms := [.anyOf "tags" (normalizeRawTags (tags.map .text))] } := by
    rw [equalityEntry, if_pos rfl]
    exact tagEntry_eq_ok.mpr ⟨tags.map .text, Json.strings_eq tags, by simpa using few, rfl⟩
  simp only [compile, entriesOf, entries, hentry, Outcome.ok_bind]
  rfl

theorem compile_name (limits : Settings) (name : String) :
    compile limits (.obj [("name", .str name)]) .null = .ok (ofName name) := rfl

theorem ofTags_fits (tags : List String) : (ofTags tags).IntegersFit := by
  intro e he k hk
  simp only [ofTags, List.append_nil, List.mem_singleton] at he
  cases he
  cases hk

theorem ofName_fits (name : String) : (ofName name).IntegersFit := by
  intro e he k hk
  simp only [ofName, List.append_nil, List.mem_singleton] at he
  cases he
  cases hk

theorem mem_normalizeRawTags {tags : List String} {t : RawText} :
    t ∈ normalizeRawTags (tags.map .text) ↔ ∃ tag ∈ tags, t = .text (Text.lower tag) := by
  simp [normalizeRawTags, RawText.lower, eq_comm]

theorem ofTags_textsFit (tags : List String) : (ofTags tags).TextsFit := by
  intro e he t ht
  simp only [ofTags, List.append_nil, List.mem_singleton] at he
  subst he
  obtain ⟨tag, _, rfl⟩ := mem_normalizeRawTags.mp ht
  rfl

theorem ofName_textsFit (name : String) : (ofName name).TextsFit := by
  intro e he t ht
  simp only [ofName, List.append_nil, List.mem_singleton] at he
  subst he
  cases List.mem_singleton.mp ht
  rfl

/-- Tags are compared in lower case. -/
theorem keeps_ofTags {f : FileNode} {written : List String}
    (stored : f.tags = sortTexts (normalizeTags written)) (tags : List String) :
    (ofTags tags).keeps (.file f) ↔ ∃ t ∈ written, ∃ tag ∈ tags, Text.lower t = Text.lower tag := by
  have hfield : Entries.get? (Node.file f).document "tags" = some (.texts f.tags) := rfl
  have hkeeps : (ofTags tags).keeps (.file f) ↔
      ∃ t ∈ f.tags, ∃ tag ∈ tags, t = Text.lower tag := by
    simp only [keeps, ofTags, List.all_cons, List.all_nil, List.isEmpty_nil, Bool.true_or,
      Bool.and_true, Term.holds, hfield, List.any_eq_true, decide_eq_true_iff,
      mem_normalizeRawTags, RawText.text.injEq]
  simp only [hkeeps, stored, sortTexts, mem_sortBy, normalizeTags, List.mem_eraseDups, List.mem_map]
  constructor
  · rintro ⟨_, ⟨t, ht, rfl⟩, tag, htag, hsame⟩
    exact ⟨t, ht, tag, htag, hsame⟩
  · rintro ⟨t, ht, tag, htag, hsame⟩
    exact ⟨_, ⟨t, ht, rfl⟩, tag, htag, hsame⟩

/-- So are names. -/
theorem keeps_ofName {n : Node} (derived : n.Derived) (name : String) :
    (ofName name).keeps n ↔ Text.lower name = Text.lower n.name := by
  have hlower : n.lowerName = Text.lower n.name := by
    cases n with
    | file f => exact derived.1
    | metaNode m => exact derived
  have hfield : Entries.get? n.document lowerNameField = some (.text n.lowerName) := by
    cases n <;> rfl
  have hkeeps : (ofName name).keeps n ↔ n.lowerName = Text.lower name := by
    simp only [keeps, ofName, List.all_cons, List.all_nil, List.isEmpty_nil, Bool.true_or,
      Bool.and_true, Term.holds, hfield, Option.any_some, Document.Value.agrees,
      decide_eq_true_iff]
  rw [hkeeps, hlower, eq_comm]

end Matcher

theorem Nodes.search_finds {equality patterns : Json} {m : Matcher} (hs : s.Keyed)
    (huser : s.hasUser username) (hm : Matcher.compile limits equality patterns = .ok m)
    (hfit : m.IntegersFit) (htexts : m.TextsFit)
    (hroom : s.nodes.length ≤ limits.resultsPerPage) (hsize : limits.resultsPerPage < 2 ^ 63)
    {n : Node} (hn : n ∈ s.nodes) (sees : n.VisibleTo username) :
    ∃ found, search limits username .null equality patterns s = .ok found ∧
      (n ∈ found ↔ m.keeps n) := by
  have hfits : Store.fitsInteger limits.resultsPerPage := by
    rw [Store.fitsInteger_iff]
    omega
  obtain ⟨found, hfound⟩ := exists_search huser hm hfit htexts hfits
  have hfinds : Finds limits s username equality patterns n ↔ n ∈ found := by
    constructor
    · rintro ⟨other, hother, hmem⟩
      cases hfound.symm.trans hother
      exact hmem
    · exact fun hmem => ⟨found, hfound, hmem⟩
  refine ⟨found, hfound, ?_⟩
  rw [← hfinds, finds_iff hs huser hm hfit htexts hroom]
  simp only [hfits, hn, sees, true_and]

/-- In every run, as long as identifiers are distinct, a node that a user sees is found by a name
exactly if the name agrees in lower case with the one that was last written to the node, and a
file is found by a list of tags exactly if one of them so agrees with one of the tags that were last
written to it. What is looked for has a UTF-8 form. The page must have room for all nodes, and its
size 64 bits at most. Every run has a ledger that tells what was written. -/
theorem written_values_are_found {allowed : Call → Store → Prop} {n : Node}
    (h : Reachable allowed s) (hids : (s.nodes.map Node.id).Nodup)
    (huser : s.hasUser username) (hn : n ∈ s.nodes) (sees : n.VisibleTo username)
    (hroom : s.nodes.length ≤ limits.resultsPerPage) (hsize : limits.resultsPerPage < 2 ^ 63) :
    (∃ ledger, Recorded allowed s ledger) ∧ ∀ ledger, Recorded allowed s ledger →
      (∃ name, Entries.get? (ledger (Query.Row.ofNode n)) "name" = some (.str name) ∧
        ∀ sought : String, ∃ found,
          Nodes.search limits username .null (.obj [("name", .str sought)]) .null s = .ok found ∧
          (n ∈ found ↔ Text.lower sought = Text.lower name)) ∧
      (n.kind = fileKind →
        ∃ tags, Entries.get? (ledger (Query.Row.ofNode n)) "tags" = some (.strings tags) ∧
          ∀ sought : List String, (sought.length : Int) ≤ limits.maxSearchableTags → ∃ found,
            Nodes.search limits username .null (.obj [("tags", .strings sought)]) .null s =
              .ok found ∧
            (n ∈ found ↔ ∃ t ∈ tags, ∃ tag ∈ sought, Text.lower t = Text.lower tag)) := by
  refine ⟨h.recorded, fun ledger hrecorded => ?_⟩
  have hs : s.Keyed := ⟨hids, h.kinds⟩
  have hshows := hrecorded.shows n hn
  constructor
  · refine ⟨n.name, hshows.name, fun sought => ?_⟩
    obtain ⟨found, hfound, hiff⟩ := Nodes.search_finds hs huser (Matcher.compile_name limits sought)
      (Matcher.ofName_fits sought) (Matcher.ofName_textsFit sought) hroom hsize hn sees
    exact ⟨found, hfound, hiff.trans (Matcher.keeps_ofName (h.derived n hn) sought)⟩
  · intro hkind
    cases n with
    | metaNode m => exact absurd hkind (hs.kinds m (Store.mem_nodes_metaNode.mp hn))
    | file f =>
      obtain ⟨tags, hwritten, hstored⟩ := hshows.tags f rfl
      refine ⟨tags, hwritten, fun sought few => ?_⟩
      obtain ⟨found, hfound, hiff⟩ := Nodes.search_finds hs huser (Matcher.compile_tags few)
        (Matcher.ofTags_fits sought) (Matcher.ofTags_textsFit sought) hroom hsize hn sees
      exact ⟨found, hfound, hiff.trans (Matcher.keeps_ofTags hstored sought)⟩

namespace Sample

/-- Gives the file a new name, and three tags of which two agree in lower case. -/
def retitle : Call := call 5 (.updateNode "anna" (.str "5F5E10000000000007000003") (.obj
  [("name", .str "ΟΔΟΣ"), ("tags", .arr [.str "Jazz", .str "JAZZ", .str "Live"])]))

def labels : Ledger := retitle.note shelf shelfLedger

def hymn : FileNode :=
  { track with name := "ΟΔΟΣ", lowerName := "οδος", tags := ["jazz", "live"] }

def labelled : Store := { shelf with files := [hymn] }

theorem labelled_recorded : Recorded Call.Fresh labelled labels :=
  .call (c := retitle) shelf_recorded (by decide)

end Sample

/-- A user who may view the file finds it by a part of its tags. -/
theorem written_values_are_found_sample :
    Recorded Call.Fresh Sample.labelled Sample.labels ∧
    (Sample.labelled.nodes.map Node.id).Nodup ∧ Sample.labelled.hasUser "bert" ∧
    Node.file Sample.hymn ∈ Sample.labelled.nodes ∧
    (Node.file Sample.hymn).VisibleTo "bert" ∧
    (∃ found, Nodes.search {} "bert" .null (.obj [("name", .str "οδοΣ")]) .null Sample.labelled =
      .ok found ∧ .file Sample.hymn ∈ found) ∧
    ∃ found, Nodes.search {} "bert" .null (.obj [("tags", .strings ["rock", "jAZZ"])]) .null
      Sample.labelled = .ok found ∧ .file Sample.hymn ∈ found := by
  have hids : (Sample.labelled.nodes.map Node.id).Nodup := by decide
  have hn : Node.file Sample.hymn ∈ Sample.labelled.nodes :=
    Store.mem_nodes_file.mpr (List.mem_singleton_self _)
  have hsees : (Node.file Sample.hymn).VisibleTo "bert" := by decide
  have huser : Sample.labelled.hasUser "bert" := rfl
  have hroom : Sample.labelled.nodes.length ≤ ({} : Settings).resultsPerPage := by decide
  obtain ⟨_, hsearches⟩ := written_values_are_found Sample.labelled_recorded.reachable hids huser hn
    hsees hroom (by decide)
  obtain ⟨⟨name, hname, hfound⟩, htags⟩ := hsearches _ Sample.labelled_recorded
  obtain ⟨tags, hwritten, hfoundTags⟩ := htags rfl
  cases hname
  have hlabels : Json.strings ["Jazz", "JAZZ", "Live"] = .strings tags := Option.some.inj hwritten
  cases Body.strings_injective hlabels
  obtain ⟨byName, hsearch, hiff⟩ := hfound "οδοΣ"
  obtain ⟨byTags, hsearchTags, hiffTags⟩ := hfoundTags ["rock", "jAZZ"] (by decide)
  refine ⟨Sample.labelled_recorded, hids, huser, hn, hsees, ⟨byName, hsearch, hiff.mpr (by decide)⟩,
    byTags, hsearchTags, hiffTags.mpr (by decide)⟩

namespace Sample

/-- The size of a page has no bound of its own. -/
def endless : Settings := { resultsPerPage := 2 ^ 63 }

end Sample

/-- A page of more rows than 64 bits can count is refused by the store, whatever is asked for. -/
theorem endless_page_finds_nothing :
    Recorded Call.Fresh Sample.shelf Sample.shelfLedger ∧
    (Sample.shelf.nodes.map Node.id).Nodup ∧ Sample.shelf.hasUser "anna" ∧
    Node.file Sample.track ∈ Sample.shelf.nodes ∧ (Node.file Sample.track).VisibleTo "anna" ∧
    Entries.get? (Sample.shelfLedger (Query.Row.ofNode (.file Sample.track))) "tags" =
      some (.strings ["Music"]) ∧
    Sample.shelf.nodes.length ≤ Sample.endless.resultsPerPage ∧
    ((["music"] : List String).length : Int) ≤ Sample.endless.maxSearchableTags ∧
    (∃ t ∈ ["Music"], ∃ tag ∈ ["music"], Text.lower t = Text.lower tag) ∧
    Nodes.search Sample.endless "anna" .null (.obj [("tags", .strings ["music"])]) .null
      Sample.shelf = breakDown .integerTooWide ∧
    ¬ Nodes.Finds Sample.endless Sample.shelf "anna" (.obj [("tags", .strings ["music"])]) .null
      (.file Sample.track) := by
  have hsearch : Nodes.search Sample.endless "anna" .null (.obj [("tags", .strings ["music"])])
      .null Sample.shelf = breakDown .integerTooWide := rfl
  refine ⟨Sample.shelf_recorded, by decide, rfl, Store.mem_nodes_file.mpr
    (List.mem_singleton_self _), by decide, rfl, by decide, by decide, by decide, hsearch, ?_⟩
  rintro ⟨found, hfound, _⟩
  cases hsearch.symm.trans hfound

end FileShare

import FileShare.Proofs.Paging
import FileShare.Proofs.Runs.Identity
import FileShare.Proofs.Search.Requests

/-! # Scans

A user reads what a matcher finds page by page; every page lies below the last node of the page
before. Between the requests the store may change in any way. A node that is there, visible and kept
at every request is either returned already or still below the cursor, and it can stay below the
cursor only as long as pages are full.
-/
namespace FileShare

/-- What the requests of a scan have in common. -/
structure Scan where
  limits : Settings
  username : String
  equality : Json
  patterns : Json

namespace Scan

/-- An answer, and the store that it was given from. -/
structure Page where
  store : Store
  nodes : List Node

/-- The cursor of the request that follows on some pages, of which the latest stands first. An empty
page has no last node to go on from. -/
def next? : List Page → Option Json
  | [] => some .null
  | page :: _ => page.nodes.getLast?.map fun n => .str n.id

/-- The nodes of all pages in the order in which they were returned. -/
def collected : List Page → List Node
  | [] => []
  | page :: earlier => collected earlier ++ page.nodes

/-- The runs in which a scan takes place: a request for a page, and whatever other calls are made
before, in between and after. Identifiers are keys whenever a page is asked for. -/
inductive Run (q : Scan) (allowed : Call → Store → Prop) : Store → List Page → Prop
  | start {s : Store} (run : Reachable allowed s) : Run q allowed s []
  | other {c : Call} {s : Store} {pages : List Page} (run : Run q allowed s pages)
      (next : allowed c s) : Run q allowed (c.after s) pages
  | page {c : Call} {s : Store} {pages : List Page} {after : Json} {found : List Node}
      (run : Run q allowed s pages) (next : allowed c s) (cursor : next? pages = some after)
      (under : c.limits = q.limits)
      (asked : c.operation = .searchNodes q.username after q.equality q.patterns)
      (distinct : (s.nodes.map Node.id).Nodup) (answered : c.result s = .ok (.nodes found)) :
      Run q allowed (c.after s) (⟨s, found⟩ :: pages)

/-! ## Pages that follow on each other -/

def cursor (pages : List Page) : Option String := (collected pages).getLast?.map Node.id

/-- Each page is the first one, in the store that it is from, of what lies below those before. -/
inductive Follow (limit : Int) (m : Matcher) (username : String) : List Page → Prop
  | nil : Follow limit m username []
  | cons {page : Page} {earlier : List Page} (rest : Follow limit m username earlier)
      (keyed : page.store.Keyed)
      (cut : page.nodes = Query.page limit
        (Query.newestNodes (page.store.nodes.filter (m.finds username (cursor earlier))))) :
      Follow limit m username (page :: earlier)

end Scan

namespace Scan
open Query

/-- A page among all the nodes of its store that the user can find. -/
def Page.paged (m : Matcher) (username : String) (page : Page) : Paging.Page Node :=
  ⟨page.store.nodes.filter (m.finds username none), page.nodes⟩

theorem collected_paged (m : Matcher) (username : String) (pages : List Page) :
    Paging.collected (pages.map (Page.paged m username)) = collected pages := by
  induction pages with
  | nil => rfl
  | cons page earlier ih => exact congrArg (· ++ page.nodes) ih

theorem cursor_paged (m : Matcher) (username : String) (pages : List Page) :
    Paging.cursor Node.id (pages.map (Page.paged m username)) = cursor pages := by
  rw [Paging.cursor, collected_paged, cursor]

theorem parse_next (m : Matcher) (username : String) {pages : List Page} {after : Json}
    (h : next? pages = some after) (hnormal : ∀ n ∈ collected pages, Identifier.IsNormal n.id) :
    Identifier.parseOptional (some "after") after = .ok (cursor pages) := by
  have hnext : Paging.next? Node.id (pages.map (Page.paged m username)) = some after := by
    cases pages <;> exact h
  rw [← cursor_paged m username]
  exact Paging.parse_next hnext (by rwa [collected_paged])

theorem finds_below {m : Matcher} {username : String} {after : Option String} {n : Node} :
    m.finds username after n ↔ m.finds username none n ∧ ∀ id ∈ after, n.id < id := by
  simp only [Matcher.finds_iff, Option.not_mem_none, false_implies, implies_true, true_and]
  tauto

theorem page_cut (limit : Int) (m : Matcher) (username : String) (after : Option String)
    {s : Store} (hs : s.Keyed) :
    Paging.Page.Cut Node.id limit after ⟨s.nodes.filter (m.finds username none),
      page limit (newestNodes (s.nodes.filter (m.finds username after)))⟩ := by
  have hdescending := newestNodes_filter_descending hs (m.finds username after)
  constructor
  case sorted => exact hdescending.sublist (page_sublist limit _)
  case sound =>
    intro n hn
    obtain ⟨hmem, hfinds⟩ := mem_answer hn
    obtain ⟨hfinds, hbelow⟩ := finds_below.mp hfinds
    exact ⟨List.mem_filter.mpr ⟨hmem, hfinds⟩, hbelow⟩
  case complete =>
    intro n hn hbelow
    obtain ⟨hmem, hfinds⟩ := List.mem_filter.mp hn
    refine page_complete limit hdescending ((newestNodes_perm _).mem_iff.mpr ?_)
    exact List.mem_filter.mpr ⟨hmem, finds_below.mpr ⟨hfinds, hbelow⟩⟩

namespace Follow
variable {limit : Int} {m : Matcher} {username : String} {pages : List Page}

theorem keyed (h : Follow limit m username pages) : ∀ page ∈ pages, page.store.Keyed := by
  induction h with
  | nil => simp
  | cons _ keyed _ ih => exact List.forall_mem_cons.mpr ⟨keyed, ih⟩

theorem paged (h : Follow limit m username pages) :
    Paging.Follow Node.id limit (pages.map (Page.paged m username)) := by
  induction h with
  | nil => exact .nil
  | @cons page earlier _ keyed cut ih =>
    have hcut := page_cut limit m username (cursor earlier) keyed
    rw [← cut, ← cursor_paged m username] at hcut
    exact .cons ih hcut

theorem descending (h : Follow limit m username pages) : Descending (collected pages) :=
  collected_paged m username pages ▸ h.paged.descending

theorem sound (h : Follow limit m username pages) : ∀ n ∈ collected pages,
    ∃ page ∈ pages, n ∈ page.store.nodes ∧ m.finds username none n := by
  intro n hn
  rw [← collected_paged m username] at hn
  obtain ⟨_, hpaged, hn⟩ := h.paged.sound n hn
  obtain ⟨page, hpage, rfl⟩ := List.mem_map.mp hpaged
  exact ⟨page, hpage, List.mem_filter.mp hn⟩

/-- A page that is not full is the end of what can be found at every request. -/
theorem returned (h : Follow limit m username pages)
    (hshort : ∃ page ∈ pages, page.nodes.length < limit) {id : String}
    (hid : ∀ page ∈ pages,
      ∃ n ∈ page.store.nodes, n.id = id ∧ n.VisibleTo username ∧ m.keeps n) :
    ∃ n ∈ collected pages, n.id = id := by
  obtain ⟨short, hshort, hlength⟩ := hshort
  rw [← collected_paged m username]
  refine h.paged.returned ⟨_, List.mem_map_of_mem hshort, hlength⟩ fun _ hpaged => ?_
  obtain ⟨page, hpage, rfl⟩ := List.mem_map.mp hpaged
  obtain ⟨n, hn, hsame, hvisible, hkeeps⟩ := hid page hpage
  exact ⟨n, List.mem_filter.mpr ⟨hn, Matcher.finds_iff.mpr ⟨hvisible, by simp, hkeeps⟩⟩, hsame⟩

/-- The pages of a scan that ran to its end over one store are all that there is to find. -/
theorem eq_all (h : Follow limit m username pages) {t : Store}
    (hsame : ∀ page ∈ pages, page.store = t)
    (hshort : ∃ page ∈ pages, page.nodes.length < limit) :
    collected pages = newestNodes (t.nodes.filter (m.finds username none)) := by
  have ht : t.Keyed := by
    obtain ⟨short, hmem, _⟩ := hshort
    exact hsame short hmem ▸ h.keyed short hmem
  refine h.descending.eq_of_nodes (newestNodes_filter_descending ht _) fun n => ?_
  rw [(newestNodes_perm _).mem_iff, List.mem_filter]
  constructor
  · intro hn
    obtain ⟨page, hpage, hstored, hfinds⟩ := h.sound n hn
    exact ⟨hsame page hpage ▸ hstored, hfinds⟩
  · rintro ⟨hn, hfinds⟩
    obtain ⟨hvisible, _, hkeeps⟩ := Matcher.finds_iff.mp hfinds
    have hid : ∀ page ∈ pages,
        ∃ k ∈ page.store.nodes, k.id = n.id ∧ k.VisibleTo username ∧ m.keeps k :=
      fun page hpage => ⟨n, (hsame page hpage).symm ▸ hn, rfl, hvisible, hkeeps⟩
    obtain ⟨k, hk, hkn⟩ := h.returned hshort hid
    obtain ⟨page, hpage, hstored, _⟩ := h.sound k hk
    cases ht.eq_of_id (hsame page hpage ▸ hstored) hn hkn
    exact hk

end Follow

/-! ## Scans in runs -/

namespace Run
variable {q : Scan} {allowed : Call → Store → Prop} {s : Store} {pages : List Page} {m : Matcher}

theorem reachable (h : q.Run allowed s pages) : Reachable allowed s := by
  induction h with
  | start run => exact run
  | other _ next ih => exact ih.call next
  | page _ next _ _ _ _ _ ih => exact ih.call next

theorem follow (hm : Matcher.compile q.limits q.equality q.patterns = .ok m)
    (h : q.Run allowed s pages) :
    Follow q.limits.resultsPerPage m q.username pages ∧
      ∀ n ∈ collected pages, Identifier.IsNormal n.id := by
  induction h with
  | start => exact ⟨.nil, by simp [collected]⟩
  | other _ _ ih => exact ih
  | @page c s pages after found run _ next under asked distinct answered ih =>
    obtain ⟨hfollow, hnormal⟩ := ih
    have hs : s.Keyed := ⟨distinct, run.reachable.kinds⟩
    have hsearch := Call.search_of_answered asked answered
    rw [under] at hsearch
    obtain ⟨below, hbelow, hfound⟩ := Nodes.page_of_search hs hm hsearch
    cases (parse_next m q.username next hnormal).symm.trans hbelow
    refine ⟨.cons hfollow hs hfound, List.forall_mem_append.mpr ⟨hnormal, fun n hn => ?_⟩⟩
    rw [hfound] at hn
    exact run.reachable.normalIds n (mem_answer hn).1

theorem first (h : q.Run allowed s pages) (hne : pages ≠ []) : ∃ page ∈ pages,
    Nodes.search q.limits q.username .null q.equality q.patterns page.store = .ok page.nodes := by
  induction h with
  | start => exact absurd rfl hne
  | other _ _ ih => exact ih hne
  | @page c s pages after found _ _ next under asked _ answered ih =>
    by_cases hfirst : pages = []
    · subst hfirst
      cases next
      exact ⟨_, List.mem_cons_self, under ▸ Call.search_of_answered asked answered⟩
    · obtain ⟨page, hpage, hsearch⟩ := ih hfirst
      exact ⟨page, List.mem_cons_of_mem _ hpage, hsearch⟩

end Run

/-- Whatever happens between the requests of a scan, no node is returned twice and the identifiers
descend. Once a page is not full, every identifier of a node that was there, visible and kept at
every request was returned exactly once; and where the requests met one and the same store, the
pages together are the answer that one page with room for all nodes would have been. -/
theorem scan_loses_nothing {q : Scan} {allowed : Call → Store → Prop} {s : Store}
    {pages : List Page} {m : Matcher}
    (hm : Matcher.compile q.limits q.equality q.patterns = .ok m)
    (h : q.Run allowed s pages) :
    (collected pages).Pairwise (fun a b => b.id < a.id) ∧
    ((∃ page ∈ pages, page.nodes.length < q.limits.resultsPerPage) →
      (∀ id, (∀ page ∈ pages,
          ∃ n ∈ page.store.nodes, n.id = id ∧ n.VisibleTo q.username ∧ m.keeps n) →
        ((collected pages).map Node.id).count id = 1) ∧
      ∀ t (most : Int), (∀ page ∈ pages, page.store = t) → t.nodes.length ≤ most → most < 2 ^ 63 →
        Nodes.search { q.limits with resultsPerPage := most } q.username .null q.equality
          q.patterns t = .ok (collected pages)) := by
  obtain ⟨hfollow, _⟩ := h.follow hm
  refine ⟨hfollow.descending, fun hshort => ⟨fun id hid => ?_, fun t most hsame hroom hmost => ?_⟩⟩
  · obtain ⟨n, hn, rfl⟩ := hfollow.returned hshort hid
    exact List.count_eq_one_of_mem hfollow.descending.nodup_ids (List.mem_map_of_mem hn)
  · have hne : pages ≠ [] := by
      rintro rfl
      obtain ⟨_, hmem, _⟩ := hshort
      exact absurd hmem List.not_mem_nil
    obtain ⟨page, hpage, hsearch⟩ := h.first hne
    cases hsame page hpage
    have ht := hfollow.keyed page hpage
    rw [hfollow.eq_all hsame hshort, Nodes.search_all ht hm hsearch hroom hmost]

end Scan

namespace Sample

/-- Everything that bert sees, one node at a time. -/
def browse : Scan := ⟨{ limits with resultsPerPage := 1 }, "bert", .null, .null⟩

def browsing (counter : Nat) (after : Json) : Call :=
  { call counter (.searchNodes "bert" after .null .null) with limits := browse.limits }

/-- A file is added after the first page. It lies above the cursor. -/
def pages : List Scan.Page :=
  [⟨stall, []⟩, ⟨stall, [.file track]⟩, ⟨shelf, [.metaNode record]⟩]

theorem browse_run : browse.Run Call.Fresh stall pages := by
  have hfirst : browse.Run Call.Fresh shelf (pages.drop 2) :=
    .page (c := browsing 5 .null) (.start shelf_reachable) rfl rfl rfl rfl (by decide) rfl
  have hadded : browse.Run Call.Fresh stall (pages.drop 2) :=
    .other (c := post) hfirst (by decide)
  have hsecond : browse.Run Call.Fresh stall (pages.drop 1) :=
    .page (c := browsing 6 (.str record.id)) hadded rfl rfl rfl rfl (by decide) rfl
  exact .page (c := browsing 7 (.str track.id)) hsecond rfl rfl rfl rfl (by decide) rfl

end Sample

theorem Scan.scan_loses_nothing_sample :
    Matcher.compile Sample.browse.limits .null .null = .ok {} ∧
    Sample.browse.Run Call.Fresh Sample.stall Sample.pages ∧
    (collected Sample.pages).Pairwise (fun a b => b.id < a.id) ∧
    ((collected Sample.pages).map Node.id).count Sample.track.id = 1 := by
  have hm : Matcher.compile Sample.browse.limits .null .null = .ok {} := rfl
  obtain ⟨hdescending, hcomplete⟩ := scan_loses_nothing hm Sample.browse_run
  refine ⟨hm, Sample.browse_run, hdescending, ?_⟩
  refine (hcomplete ⟨_, List.mem_cons_self, by decide⟩).1 _ fun page hpage => ?_
  have htrack : Node.file Sample.track ∈ page.store.nodes := by
    simp only [Sample.pages, List.mem_cons, List.not_mem_nil, or_false] at hpage
    rcases hpage with rfl | rfl | rfl <;> exact List.mem_cons_self
  exact ⟨_, htrack, rfl, by decide, rfl⟩

end FileShare

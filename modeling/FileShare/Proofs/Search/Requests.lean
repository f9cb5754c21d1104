import FileShare.Proofs.Runs.Calls
import FileShare.Proofs.Search.PlainFilter

/-! # Requests for a page

Whether a search answers is decided by its checks and by the values that its plan gives to the
store: integers may be too wide for it, and texts may lack a UTF-8 form. The rows have no say in it:
what was checked can be run on every store, and the same plan runs under every size of a page.
-/
namespace FileShare

namespace Query
variable {p : Plan} {m : Matcher} {username : String} {limit : Int} {after : Option String}

theorem exists_fetch (hp : p.Answers) (hfault : p.fault? = none) (s : Store) :
    ∃ found, fetch s p = .ok found := by
  rw [fetch, rows_eq hp hfault]
  exact ⟨_, rfl⟩

theorem fault?_of_fetch {s : Store} {found : List Node} (h : fetch s p = .ok found) :
    p.fault? = none := by
  cases hfault : p.fault? with
  | none => rfl
  | some fault => simp [fetch_of_fault hfault] at h

theorem Parameter.fault?_eq_some {x : Parameter} {fault : Breakdown} (h : x.fault? = some fault) :
    fault = .integerTooWide ∨ fault = .notEncodable := by
  unfold fault? at h
  split at h
  · split at h <;> simp_all
  all_goals simp_all

theorem Plan.fault?_eq_some {fault : Breakdown} (h : p.fault? = some fault) :
    fault = .integerTooWide ∨ fault = .notEncodable := by
  obtain ⟨x, _, hx⟩ := List.exists_of_findSome?_eq_some h
  exact Parameter.fault?_eq_some hx

theorem length_le_of_fetch {s : Store} {found : List Node} (h : fetch s p = .ok found)
    (hleast : 0 ≤ p.limit) : found.length ≤ p.limit := by
  obtain ⟨rows, hrows, h⟩ := Outcome.bind_eq_ok.mp h
  cases h
  have hpage : rows.length ≤ p.limit.toNat := by
    unfold Plan.rows at hrows
    split at hrows
    · simp at hrows
    · obtain ⟨files, _, hrows⟩ := Outcome.bind_eq_ok.mp hrows
      obtain ⟨metas, _, hrows⟩ := Outcome.bind_eq_ok.mp hrows
      cases hrows
      rw [page, if_neg (not_lt.mpr hleast)]
      exact List.length_take_le _ _
  have hfound := List.length_filterMap_le (fun r => nodeOf? s rows r.id) rows
  omega

theorem page_filter_of_room {s : Store} {limit : Int} (hroom : s.nodes.length ≤ limit)
    (keep : Node → Bool) :
    page limit (newestNodes (s.nodes.filter keep)) = newestNodes (s.nodes.filter keep) := by
  have hlength := (newestNodes_perm (s.nodes.filter keep)).length_eq
  have hfilter := List.length_filter_le keep s.nodes
  rw [page, if_neg (by omega), List.take_of_length_le (by omega)]

/-- The size of a page plays no part in the branches. -/
theorem ofMatcher_withLimit (h : ofMatcher m username limit after = .ok p) (most : Int) :
    ofMatcher m username most after = .ok { p with limit := most } := by
  simp only [ofMatcher, searchPlan] at h ⊢
  obtain ⟨files, hfiles, h⟩ := Outcome.bind_eq_ok.mp h
  obtain ⟨metas, hmetas, h⟩ := Outcome.bind_eq_ok.mp h
  cases h
  rw [hfiles, hmetas]
  rfl

theorem Plan.fault?_withLimit (h : p.fault? = none) {most : Int} (hmost : Store.fitsInteger most) :
    Plan.fault? { p with limit := most } = none := by
  rw [fault?_eq_none, parameters, List.forall_mem_append] at h ⊢
  exact ⟨h.1, List.forall_mem_singleton.mpr (by simp [Parameter.fault?, hmost])⟩

end Query

theorem Matcher.finds_iff {m : Matcher} {username : String} {after : Option String} {n : Node} :
    m.finds username after n ↔
      n.VisibleTo username ∧ (∀ id ∈ after, n.id < id) ∧ m.keeps n := by
  simp [Matcher.finds, and_assoc, Option.all_eq_true]

namespace Call
variable {c : Call} {s : Store} {username : String} {found : List Node}

theorem nodes_of_answered {result : Except Failure (List Node)} {w : World}
    (h : (Operation.reading w .nodes result).1 = .ok (.nodes found)) : result = .ok found := by
  cases result with
  | error e => cases h
  | ok ns =>
    cases h
    rfl

theorem get_of_answered {ids : List Json} (asked : c.operation = .getNodes username ids)
    (answered : c.result s = .ok (.nodes found)) :
    Nodes.get c.limits username ids s = .ok found := by
  simp only [result, run, asked, Operation.run] at answered
  exact nodes_of_answered answered

theorem search_of_answered {after equality patterns : Json}
    (asked : c.operation = .searchNodes username after equality patterns)
    (answered : c.result s = .ok (.nodes found)) :
    Nodes.search c.limits username after equality patterns s = .ok found := by
  simp only [result, run, asked, Operation.run] at answered
  exact nodes_of_answered answered

end Call

namespace Nodes
variable {limits : Settings} {s : Store} {username : String} {after equality patterns : Json}
  {m : Matcher} {found : List Node}

theorem search_eq_ok (hm : Matcher.compile limits equality patterns = .ok m) :
    search limits username after equality patterns s = .ok found ↔
      ∃ cursor p, Identifier.parseOptional (some "after") after = .ok cursor ∧
        (∀ id ∈ cursor, s.hasNode id) ∧ s.hasUser username ∧
        Query.ofMatcher m username limits.resultsPerPage cursor = .ok p ∧
        Query.fetch s p = .ok found := by
  constructor
  · intro h
    obtain ⟨cursor, hcursor, h⟩ := Outcome.bind_eq_ok.mp h
    obtain ⟨m', hm', h⟩ := Outcome.bind_eq_ok.mp h
    cases hm.symm.trans hm'
    split at h
    · simp at h
    · rename_i hpresent
      obtain ⟨u, hu, h⟩ := Outcome.bind_eq_ok.mp h
      obtain ⟨p, hp, h⟩ := Outcome.bind_eq_ok.mp h
      have hexists : ∀ id ∈ cursor, s.hasNode id := by
        rintro id rfl
        simpa using hpresent
      exact ⟨cursor, p, hcursor, hexists, Accounts.discard_require_eq_ok.mp hu, hp, h⟩
  · rintro ⟨cursor, p, hcursor, hexists, huser, hp, h⟩
    rw [search_eq_fetch hcursor hexists huser hm hp, h]

/-- Where identifiers are keys, every page that is answered is the first one of the plain filter
below its cursor. -/
theorem page_of_search (hs : s.Keyed) (hm : Matcher.compile limits equality patterns = .ok m)
    (h : search limits username after equality patterns s = .ok found) :
    ∃ cursor, Identifier.parseOptional (some "after") after = .ok cursor ∧
      found = Query.page limits.resultsPerPage
        (Query.newestNodes (s.nodes.filter (m.finds username cursor))) := by
  obtain ⟨cursor, p, hcursor, _, _, hp, hfetch⟩ := (search_eq_ok hm).mp h
  obtain ⟨hterms, halts⟩ := Matcher.compile_checked hm
  obtain ⟨p', hp', hlimit, hanswers, hselects, _⟩ :=
    Query.ofMatcher_reads hterms halts username limits.resultsPerPage cursor
  cases hp.symm.trans hp'
  rw [Query.fetch_eq hs hanswers (Query.fault?_of_fetch hfetch), hlimit, hselects] at hfetch
  exact ⟨cursor, hcursor, (Except.ok.inj hfetch).symm⟩

/-- A request that is answered is also answered with all that it asks for, under a page size that
has room for every node. -/
theorem search_all (hs : s.Keyed) (hm : Matcher.compile limits equality patterns = .ok m)
    (h : search limits username .null equality patterns s = .ok found) {most : Int}
    (hroom : s.nodes.length ≤ most) (hmost : most < 2 ^ 63) :
    search { limits with resultsPerPage := most } username .null equality patterns s =
      .ok (Query.newestNodes (s.nodes.filter (m.finds username none))) := by
  obtain ⟨_, p, hcursor, _, huser, hp, hfetch⟩ := (search_eq_ok hm).mp h
  cases hcursor
  have hm' : Matcher.compile { limits with resultsPerPage := most } equality patterns = .ok m := hm
  have hp' := Query.ofMatcher_withLimit hp most
  obtain ⟨hterms, halts⟩ := Matcher.compile_checked hm
  obtain ⟨p', hp'', hlimit, hanswers, hselects, _⟩ :=
    Query.ofMatcher_reads hterms halts username most none
  cases hp'.symm.trans hp''
  have hmostFits : Store.fitsInteger most := by
    simp only [Store.fitsInteger, Bool.and_eq_true, decide_eq_true_eq]
    omega
  have hfault := Query.Plan.fault?_withLimit (Query.fault?_of_fetch hfetch) hmostFits
  rw [search_eq_fetch rfl (by simp) huser hm' hp', Query.fetch_eq hs hanswers hfault, hselects]
  rw [Query.page_filter_of_room hroom]

/-! ## What was checked can be run -/

theorem exists_search (huser : s.hasUser username)
    (hm : Matcher.compile limits equality patterns = .ok m) (hfit : m.IntegersFit)
    (htexts : m.TextsFit) (hsize : Store.fitsInteger limits.resultsPerPage) :
    ∃ found, search limits username .null equality patterns s = .ok found := by
  obtain ⟨hterms, halts⟩ := Matcher.compile_checked hm
  obtain ⟨p, hp, _, hanswers, _, hfits⟩ :=
    Query.ofMatcher_reads hterms halts username limits.resultsPerPage none
  rw [search_eq_fetch rfl (by simp) huser hm hp]
  exact Query.exists_fetch hanswers (hfits hfit htexts hsize) s

/-- A matcher that was checked can be searched with, by every user, in every store. Its plan
answers with a page unless it gives the store a value that it cannot take, an integer that is too
wide or a text without a UTF-8 form. There is none if the integers of the matcher are signed ones of
64 bits and its texts have UTF-8 forms. -/
theorem checked_search_answers {w : World} (huser : w.store.hasUser username)
    (hm : Matcher.compile limits equality patterns = .ok m) (hleast : 0 ≤ limits.resultsPerPage)
    (hmost : limits.resultsPerPage < 2 ^ 63) (now : Instant) :
    ∃ p, Query.ofMatcher m username limits.resultsPerPage none = .ok p ∧
      (p.fault? = none → ∃ found : List Node, found.length ≤ limits.resultsPerPage ∧
        (Operation.searchNodes username .null equality patterns).run limits now w =
          (.ok (.nodes found), w)) ∧
      (∀ fault, p.fault? = some fault →
        (fault = .integerTooWide ∨ fault = .notEncodable) ∧
        (Operation.searchNodes username .null equality patterns).run limits now w =
          (breakDown fault, w)) ∧
      (m.IntegersFit → m.TextsFit → p.fault? = none) := by
  obtain ⟨hterms, halts⟩ := Matcher.compile_checked hm
  obtain ⟨p, hp, hlimit, hanswers, _, hfits⟩ :=
    Query.ofMatcher_reads hterms halts username limits.resultsPerPage none
  have hsearch : search limits username .null equality patterns w.store =
      Query.fetch w.store p := search_eq_fetch rfl (by simp) huser hm hp
  have hlimitFits : Store.fitsInteger limits.resultsPerPage := by
    simp only [Store.fitsInteger, Bool.and_eq_true, decide_eq_true_eq]
    omega
  refine ⟨p, hp, fun hfault => ?_, fun fault hfault => ⟨Query.Plan.fault?_eq_some hfault, ?_⟩,
    fun hm ht => hfits hm ht hlimitFits⟩
  · obtain ⟨found, hfound⟩ := Query.exists_fetch hanswers hfault w.store
    refine ⟨found, hlimit ▸ Query.length_le_of_fetch hfound (hlimit ▸ hleast), ?_⟩
    simp only [Operation.run, Operation.reading, hsearch, hfound]
    rfl
  · have hbreak := Query.fetch_of_fault hfault w.store
    simp only [Operation.run, Operation.reading, hsearch, hbreak]
    rfl

end Nodes

theorem Nodes.checked_search_answers_sample :
    Sample.shelf.hasUser "anna" ∧
    Matcher.compile {} Sample.equality Sample.patterns = .ok Sample.matcher ∧
    ∃ p, Query.ofMatcher Sample.matcher "anna" 100 none = .ok p ∧
      (p.fault? = none → ∃ found : List Node, found.length ≤ (100 : Int) ∧
        (Operation.searchNodes "anna" .null Sample.equality Sample.patterns).run {} ⟨0⟩
          ⟨Sample.shelf, ⟨0, 0⟩⟩ = (.ok (.nodes found), ⟨Sample.shelf, ⟨0, 0⟩⟩)) ∧
      (∀ fault, p.fault? = some fault →
        (fault = .integerTooWide ∨ fault = .notEncodable) ∧
        (Operation.searchNodes "anna" .null Sample.equality Sample.patterns).run {} ⟨0⟩
          ⟨Sample.shelf, ⟨0, 0⟩⟩ = (breakDown fault, ⟨Sample.shelf, ⟨0, 0⟩⟩)) ∧
      (Sample.matcher.IntegersFit → Sample.matcher.TextsFit → p.fault? = none) := by
  have huser : Sample.shelf.hasUser "anna" := rfl
  have hm : Matcher.compile {} Sample.equality Sample.patterns = .ok Sample.matcher := rfl
  exact ⟨huser, hm, Nodes.checked_search_answers (w := ⟨Sample.shelf, ⟨0, 0⟩⟩) huser hm (by decide)
    (by decide) ⟨0⟩⟩

namespace Sample

/-- Asks for sizes below a bound that is one more than the store can take. -/
def wide : Json := .obj [("size", .obj [("$lt", .num (.int (2 ^ 63)))])]

end Sample

/-- The check takes integers of every size, and the store does not. -/
theorem Nodes.search_breaks_on_wide_integer :
    Reachable Call.Fresh Sample.shelf ∧ Sample.shelf.hasUser "anna" ∧
    Matcher.compile {} Sample.wide .null =
      .ok ⟨[.range "size" "$lt" (.int (2 ^ 63))], []⟩ ∧
    Nodes.search {} "anna" .null Sample.wide .null Sample.shelf = breakDown .integerTooWide :=
  ⟨Sample.shelf_reachable, rfl, rfl, rfl⟩

end FileShare

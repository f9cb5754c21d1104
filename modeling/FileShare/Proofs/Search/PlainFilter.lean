import FileShare.Operation
import FileShare.Proofs.Search.Lookups
import FileShare.Proofs.Search.TermClauses

/-! # Searching is filtering

The plan of a checked matcher selects in each table the nodes that the plain filter finds. So a
search over a store whose identifiers are keys answers with the first page of the filtered nodes in
descending order.
-/
namespace FileShare
namespace Query

theorem Parameter.IsOf.fault?_eq_none {e : Term} {x : Parameter} (h : x.IsOf e)
    (hnumber : ∀ k, e.number? = some (.int k) → -2 ^ 63 ≤ k ∧ k < 2 ^ 63)
    (htexts : ∀ t ∈ e.texts, t.utf8?.isSome) : x.fault? = none := by
  cases x with
  | number v =>
    cases v with
    | int k => exact if_pos (Store.fitsInteger_iff.mpr (hnumber k h))
    | float _ => rfl
  | text t =>
    have ht := htexts t h
    cases t with
    | text _ => rfl
    | unpaired => cases ht

/-! ## Clauses of a list of terms -/

section Clauses
variable {t : Table} {es : List Term}

theorem clauses_read (h : ∀ e ∈ es, e.Checked) :
    ∃ cs, (es.map Operand.term).mapM (operandClause t) = .ok cs ∧
      List.Forall₂ (Reads t) es cs := by
  induction es with
  | nil => exact ⟨[], rfl, .nil⟩
  | cons e rest ih =>
    obtain ⟨he, hrest⟩ := List.forall_mem_cons.mp h
    obtain ⟨c, hc, hread⟩ := clause_reads t he
    obtain ⟨cs, hcs, hreads⟩ := ih hrest
    have hhead : operandClause t (.term e) = .ok c := hc
    refine ⟨c :: cs, ?_, .cons hread hreads⟩
    rw [List.map_cons, List.mapM_cons, hhead, hcs]
    rfl

variable {cs : List Clause} (h : List.Forall₂ (Reads t) es cs)
include h

theorem all_passes_of_reads {n : Node} (hn : tableOf n = t) :
    cs.all (·.passes n) = es.all (·.holds n) := by
  induction h with
  | nil => rfl
  | cons hread _ ih => rw [List.all_cons, List.all_cons, hread.truth n hn, ih]

theorem any_passes_of_reads {n : Node} (hn : tableOf n = t) :
    cs.any (·.passes n) = es.any (·.holds n) := by
  induction h with
  | nil => rfl
  | cons hread _ ih => rw [List.any_cons, List.any_cons, hread.truth n hn, ih]

theorem answers_of_reads : ∀ c ∈ cs, c.Every Test.Answers := by
  intro c hc
  obtain ⟨_, _, hread⟩ := Outcome.exists_mem_of_forall₂ h hc
  exact hread.answers

theorem bindable_of_reads
    (hnumbers : ∀ e ∈ es, ∀ k, e.number? = some (.int k) → -2 ^ 63 ≤ k ∧ k < 2 ^ 63)
    (htexts : ∀ e ∈ es, ∀ t ∈ e.texts, t.utf8?.isSome) :
    ∀ c ∈ cs, c.Every fun u => ∀ x ∈ u.parameters, x.fault? = none := by
  intro c hc u hu x hx
  obtain ⟨e, he, hread⟩ := Outcome.exists_mem_of_forall₂ h hc
  exact (hread.parameters u hu x hx).fault?_eq_none (hnumbers e he) (htexts e he)

end Clauses

/-! ## Branches and plans -/

theorem before_passes (n : Node) (cursor : String) :
    (Test.before cursor).passes n = decide (n.id < cursor) := rfl

/-- The clauses before the terms: the node is visible and lies below the cursor. -/
def scope (username : String) (after : Option String) : List Clause :=
  [.test (.visibleTo username)] ++ after.toList.map fun id => .test (.before id)

theorem scope_passes (n : Node) (username : String) (after : Option String) :
    (scope username after).all (·.passes n) =
      (decide (n.VisibleTo username) && after.all fun cursor => n.id < cursor) := by
  cases after <;> simp [scope, Clause.passes, visibleTo_passes, before_passes]

theorem scope_every {P : Test → Prop} {username : String} {after : Option String}
    (hv : P (.visibleTo username)) (hb : ∀ id, P (.before id)) :
    ∀ c ∈ scope username after, c.Every P := by
  intro c hc
  simp only [scope, List.mem_append, List.mem_singleton, List.mem_map] at hc
  rcases hc with rfl | ⟨id, _, rfl⟩
  · exact every_test hv
  · exact every_test (hb id)

/-- A branch is the plain filter on the rows of its table. -/
structure BranchReads (m : Matcher) (username : String) (after : Option String) (t : Table)
    (b : Branch) : Prop where
  truth : ∀ n, tableOf n = t → b.passes n = m.finds username after n
  answers : b.Every Test.Answers
  bindable : m.IntegersFit → m.TextsFit → ∀ x ∈ branchParameters b, x.fault? = none

/-- Both forms of a branch, with and without a group, are put together from what was read. -/
theorem searchBranch_reads {m : Matcher} (hterms : ∀ e ∈ m.terms, e.Checked)
    (halts : ∀ e ∈ m.alternatives, e.Checked) (username : String) (after : Option String)
    (t : Table) :
    ∃ b, searchBranch (m.terms.map .term)
        (if m.alternatives.isEmpty then none else some (m.alternatives.map .term))
        username after t = .ok b ∧ BranchReads m username after t b := by
  obtain ⟨cs, hcs, hreads⟩ := clauses_read (t := t) hterms
  obtain ⟨as, has, hgroup⟩ := clauses_read (t := t) halts
  have hanswers : ∀ c ∈ scope username after ++ cs, c.Every Test.Answers :=
    List.forall_mem_append.mpr
      ⟨scope_every (fun _ => rfl) (fun _ _ => rfl), answers_of_reads hreads⟩
  have hbindable : m.IntegersFit → m.TextsFit → ∀ c ∈ scope username after ++ cs,
      c.Every fun u => ∀ x ∈ u.parameters, x.fault? = none := fun hm ht =>
    List.forall_mem_append.mpr
      ⟨scope_every (by simp [Test.parameters]) (by simp [Test.parameters]),
        bindable_of_reads hreads (fun e he => hm e (List.mem_append_left _ he))
          fun e he => ht e (List.mem_append_left _ he)⟩
  have htruth : ∀ n, tableOf n = t → (conjunction (scope username after ++ cs)).passes n =
      (decide (n.VisibleTo username) && (after.all fun cursor => n.id < cursor) &&
        m.terms.all (·.holds n)) := by
    intro n hn
    rw [conjunction_passes, List.all_append, scope_passes, all_passes_of_reads hreads hn]
  cases hempty : m.alternatives.isEmpty with
  | true =>
    refine ⟨conjunction (scope username after ++ cs), ?_, ?_, conjunction_every hanswers, ?_⟩
    · simp only [searchBranch, hcs]
      rfl
    · intro n hn
      rw [htruth n hn]
      simp [Matcher.finds, Matcher.keeps, hempty]
    · exact fun hm ht => bindable_of_every (conjunction_every (hbindable hm ht))
  | false =>
    have hne : as ≠ [] := by
      rintro rfl
      simp [List.forall₂_nil_right_iff.mp hgroup] at hempty
    refine ⟨both (conjunction (scope username after ++ cs)) (disjunction as), ?_, ?_, ?_, ?_⟩
    · simp only [searchBranch, hcs, Bool.false_eq_true, ↓reduceIte, Outcome.ok_bind, has]
      rfl
    · intro n hn
      rw [both_passes, disjunction_passes n hne, any_passes_of_reads hgroup hn, htruth n hn]
      simp [Matcher.finds, Matcher.keeps, hempty, Bool.and_assoc]
    · exact both_every (conjunction_every hanswers) (disjunction_every (answers_of_reads hgroup))
    · intro hm ht
      have halternatives := disjunction_every <| bindable_of_reads hgroup
        (fun e he => hm e (List.mem_append_right _ he))
        fun e he => ht e (List.mem_append_right _ he)
      exact bindable_of_every (both_every (conjunction_every (hbindable hm ht)) halternatives)

theorem ofMatcher_reads {m : Matcher} (hterms : ∀ e ∈ m.terms, e.Checked)
    (halts : ∀ e ∈ m.alternatives, e.Checked) (username : String) (limit : Int)
    (after : Option String) :
    ∃ p, ofMatcher m username limit after = .ok p ∧ p.limit = limit ∧ p.Answers ∧
      p.selects = m.finds username after ∧
      (m.IntegersFit → m.TextsFit → Store.fitsInteger limit → p.fault? = none) := by
  obtain ⟨files, hfiles, readFiles⟩ := searchBranch_reads hterms halts username after .files
  obtain ⟨metas, hmetas, readMetas⟩ := searchBranch_reads hterms halts username after .metas
  refine ⟨⟨files, metas, limit⟩, ?_, rfl, ⟨readFiles.answers, readMetas.answers⟩, ?_, ?_⟩
  · simp only [ofMatcher, searchPlan, hfiles, hmetas]
    rfl
  · funext n
    cases n with
    | file f => exact readFiles.truth _ rfl
    | metaNode k => exact readMetas.truth _ rfl
  · intro hm ht hlimit
    refine Plan.fault?_eq_none.mpr (List.forall_mem_append.mpr ⟨List.forall_mem_append.mpr
      ⟨readFiles.bindable hm ht, readMetas.bindable hm ht⟩, List.forall_mem_singleton.mpr ?_⟩)
    exact if_pos hlimit

end Query

/-! ## The search -/

namespace Nodes

theorem search_eq_fetch {limits : Settings} {s : Store} {username : String}
    {after equality patterns : Json} {cursor : Option String} {m : Matcher} {p : Query.Plan}
    (hcursor : Identifier.parseOptional (some "after") after = .ok cursor)
    (hexists : ∀ id ∈ cursor, s.hasNode id) (huser : s.hasUser username)
    (hm : Matcher.compile limits equality patterns = .ok m)
    (hp : Query.ofMatcher m username limits.resultsPerPage cursor = .ok p) :
    search limits username after equality patterns s = Query.fetch s p := by
  have hu : discard (Accounts.require s username) = .ok () :=
    Accounts.discard_require_eq_ok.mpr huser
  have hpresent : cursor.any (fun id => !s.hasNode id) = false := by
    cases cursor with
    | none => rfl
    | some id => simp [hexists id rfl]
  simp only [search, hcursor, hm, hpresent, hp, hu, Outcome.ok_bind, Bool.false_eq_true, ↓reduceIte]

/-- A search answers with the first page of the plain filter over all nodes, in strictly
descending order of identifiers. -/
theorem search_eq_filter {limits : Settings} {w : World} {username : String}
    {after equality patterns : Json} {cursor : Option String} {m : Matcher}
    (hs : w.store.Keyed) (huser : w.store.hasUser username)
    (hcursor : Identifier.parseOptional (some "after") after = .ok cursor)
    (hexists : ∀ id ∈ cursor, w.store.hasNode id)
    (hm : Matcher.compile limits equality patterns = .ok m) (hfit : m.IntegersFit)
    (htexts : m.TextsFit) (hleast : 0 ≤ limits.resultsPerPage)
    (hmost : limits.resultsPerPage < 2 ^ 63) (now : Instant) :
    ∃ found : List Node,
      found.Perm (w.store.nodes.filter (m.finds username cursor)) ∧
      found.Pairwise (fun a b => b.id < a.id) ∧
      search limits username after equality patterns w.store =
        .ok (found.take limits.resultsPerPage.toNat) ∧
      ((Operation.searchNodes username after equality patterns).run limits now w).1.map
          Reply.toJson =
        .ok (.arr ((found.take limits.resultsPerPage.toNat).map Node.toJson)) := by
  obtain ⟨hterms, halts⟩ := Matcher.compile_checked hm
  obtain ⟨p, hp, hlimit, hanswers, hselects, hfits⟩ :=
    Query.ofMatcher_reads hterms halts username limits.resultsPerPage cursor
  have hlimitFits : Store.fitsInteger limits.resultsPerPage := by
    simp only [Store.fitsInteger, Bool.and_eq_true, decide_eq_true_eq]
    omega
  have hpage : ∀ l : List Node,
      Query.page p.limit l = l.take limits.resultsPerPage.toNat := fun l => by
    rw [Query.page, hlimit, if_neg (not_lt.mpr hleast)]
  have hsearch : search limits username after equality patterns w.store =
      .ok ((Query.newestNodes (w.store.nodes.filter (m.finds username cursor))).take
        limits.resultsPerPage.toNat) := by
    rw [search_eq_fetch hcursor hexists huser hm hp,
      Query.fetch_eq hs hanswers (hfits hfit htexts hlimitFits), hpage, hselects]
  refine ⟨_, Query.newestNodes_perm _, ?_, hsearch, ?_⟩
  · exact Query.newestNodes_descending (hs.ids.sublist (List.filter_sublist.map Node.id))
  · simp only [Operation.run, Operation.reading, hsearch]
    rfl

end Nodes

namespace Sample

/-- Large or tiny, and with a tag. -/
def equality : Json := .obj [
  ("size", .obj [("$or", .arr [.obj [("$gt", .num (.int 5))], .obj [("$lt", .num (.int 1))]])]),
  ("tags", .arr [.str "MUSIC"])]

def patterns : Json := .obj [("name", .str "^S")]

def matcher : Matcher where
  terms := [.anyOf "tags" ["music"], .fits lowerNameField "^s"]
  alternatives := [.range "size" "$gt" (.int 5), .range "size" "$lt" (.int 1)]

end Sample

theorem Nodes.search_eq_filter_sample :
    Sample.store.Keyed ∧ Sample.store.hasUser "anna" ∧
    Identifier.parseOptional (some "after") (.str "5F1D7A00AA00BB00CC000020") =
      .ok (some "5f1d7a00aa00bb00cc000020") ∧
    Matcher.compile {} Sample.equality Sample.patterns = .ok Sample.matcher ∧
    Sample.matcher.IntegersFit ∧ Sample.matcher.TextsFit ∧
    ∃ found : List Node,
      found.Perm (Sample.store.nodes.filter
        (Sample.matcher.finds "anna" (some "5f1d7a00aa00bb00cc000020"))) ∧
      found.Pairwise (fun a b => b.id < a.id) ∧
      Nodes.search {} "anna" (.str "5F1D7A00AA00BB00CC000020") Sample.equality Sample.patterns
          Sample.store = .ok (found.take 100) ∧
      ((Operation.searchNodes "anna" (.str "5F1D7A00AA00BB00CC000020") Sample.equality
          Sample.patterns).run {} ⟨0⟩ ⟨Sample.store, ⟨0, 0⟩⟩).1.map Reply.toJson =
        .ok (.arr ((found.take 100).map Node.toJson)) := by
  have hfit : Sample.matcher.IntegersFit := by
    intro e he k hk
    simp only [Sample.matcher, List.cons_append, List.nil_append, List.mem_cons,
      List.not_mem_nil, or_false] at he
    rcases he with rfl | rfl | rfl | rfl <;> cases hk <;> decide
  have hexists : ∀ id ∈ some "5f1d7a00aa00bb00cc000020", Sample.store.hasNode id := by
    rintro id ⟨⟩
    rfl
  have htexts : Sample.matcher.TextsFit := by decide
  refine ⟨Sample.store_keyed, rfl, rfl, rfl, hfit, htexts, ?_⟩
  exact Nodes.search_eq_filter (w := ⟨Sample.store, ⟨0, 0⟩⟩) Sample.store_keyed rfl rfl hexists rfl
    hfit htexts (by decide) (by decide) ⟨0⟩

namespace Sample

/-- Asks for a text that is half of a surrogate pair. -/
def halfText : Json := .obj [("text", .ofText half)]

end Sample

/-- The check takes texts of every form, and the store does not. The filter keeps no node. -/
theorem Nodes.search_breaks_on_unpaired_text :
    Sample.store.Keyed ∧ Sample.store.hasUser "anna" ∧
    Matcher.compile {} Sample.halfText .null =
      .ok ⟨[.equals "text" (.ofText Sample.half)], []⟩ ∧
    Matcher.IntegersFit ⟨[.equals "text" (.ofText Sample.half)], []⟩ ∧
    Sample.store.nodes.filter
      (Matcher.finds ⟨[.equals "text" (.ofText Sample.half)], []⟩ "anna" none) = [] ∧
    Nodes.search {} "anna" .null Sample.halfText .null Sample.store = breakDown .notEncodable := by
  refine ⟨Sample.store_keyed, rfl, rfl, ?_, by decide, rfl⟩
  intro e he k hk
  cases List.mem_singleton.mp he
  cases hk

end FileShare

import FileShare.Proofs.Search.PlainFilter

/-! # Reading shows only what is visible

Two stores may differ in everything that a user cannot see. Reading by identifier and searching give
that user the same outcome on both, answers and failures alike.
-/
namespace FileShare

/-- The stores hold the same users and the same nodes that one user sees. -/
structure Store.SameFor (username : String) (s t : Store) : Prop where
  users : ∀ u, u ∈ s.users ↔ u ∈ t.users
  nodes : ∀ n : Node, n.VisibleTo username → (n ∈ s.nodes ↔ n ∈ t.nodes)

namespace Query

theorem fetch_congr {s t : Store} (hs : s.Keyed) (ht : t.Keyed) {p : Plan} (hp : p.Answers)
    (h : ∀ n, p.selects n → (n ∈ s.nodes ↔ n ∈ t.nodes)) : fetch s p = fetch t p := by
  cases hfault : p.fault? with
  | some fault => rw [fetch_of_fault hfault, fetch_of_fault hfault]
  | none =>
    have hnodes :
        newestNodes (s.nodes.filter p.selects) = newestNodes (t.nodes.filter p.selects) := by
      refine newestNodes_congr (hs.ids.sublist (List.filter_sublist.map Node.id))
        (ht.ids.sublist (List.filter_sublist.map Node.id)) fun n => ?_
      rw [List.mem_filter, List.mem_filter]
      exact and_congr_left fun hn => h n hn
    rw [fetch_eq hs hp hfault, fetch_eq ht hp hfault, hnodes]

end Query

section TwoRuns
variable {username : String} {s t : Store} (h : s.SameFor username t)
include h

theorem discard_require_congr (name : String) :
    discard (Accounts.require s name) = discard (Accounts.require t name) := by
  have hsame : s.hasUser name = t.hasUser name := by
    apply Bool.eq_iff_iff.mpr
    simp only [Store.hasUser, Store.userNamed?, List.find?_isSome, h.users]
  unfold Store.hasUser at hsame
  cases hu : s.userNamed? name with
  | none =>
    have hv : t.userNamed? name = none := by simpa [hu] using hsame.symm
    simp only [Accounts.require, hu, hv]
  | some u =>
    obtain ⟨v, hv⟩ := Option.isSome_iff_exists.mp (hsame.symm.trans (congrArg Option.isSome hu))
    simp only [Accounts.require, hu, hv]
    rfl

variable (hs : s.Keyed) (ht : t.Keyed)
include hs ht

theorem get_isolated (limits : Settings) (ids : List Json) :
    Nodes.get limits username ids s = Nodes.get limits username ids t := by
  have hfetch : ∀ wanted, Query.fetch s (Query.idPlan wanted username) =
      Query.fetch t (Query.idPlan wanted username) := by
    intro wanted
    refine Query.fetch_congr hs ht (Query.idPlan_answers wanted username) fun n hn => ?_
    rw [Query.idPlan_selects, Bool.and_eq_true, decide_eq_true_iff, decide_eq_true_iff] at hn
    exact h.nodes n hn.2
  simp only [Nodes.get, discard_require_congr h, hfetch]

theorem search_isolated (limits : Settings) (after equality patterns : Json)
    (hcursor : ∀ id, Identifier.parseOptional (some "after") after = .ok (some id) →
      s.hasNode id = t.hasNode id) :
    Nodes.search limits username after equality patterns s =
      Nodes.search limits username after equality patterns t := by
  simp only [Nodes.search]
  cases hafter : Identifier.parseOptional (some "after") after with
  | error e => rfl
  | ok cursor =>
    have hany : cursor.any (fun id => !s.hasNode id) = cursor.any fun id => !t.hasNode id := by
      cases cursor with
      | none => rfl
      | some id => simp [hcursor id hafter]
    cases hm : Matcher.compile limits equality patterns with
    | error e => rfl
    | ok m =>
      obtain ⟨hterms, halts⟩ := Matcher.compile_checked hm
      obtain ⟨p, hp, _, hanswers, hselects, _⟩ :=
        Query.ofMatcher_reads hterms halts username limits.resultsPerPage cursor
      have hfetch : Query.fetch s p = Query.fetch t p := by
        refine Query.fetch_congr hs ht hanswers fun n hn => ?_
        simp only [hselects, Matcher.finds, Bool.and_eq_true, decide_eq_true_iff] at hn
        exact h.nodes n hn.1.1
      simp only [Outcome.ok_bind, hany, hp, discard_require_congr h, hfetch]

end TwoRuns

/-- What a user reads depends on the users and on the nodes that the user sees, and on nothing
else: no identifier, matcher or page size lets another node show. A cursor is an identifier that
the stores agree on. -/
theorem reads_isolated {v w : World} {username : String} (hv : v.store.Keyed) (hw : w.store.Keyed)
    (h : v.store.SameFor username w.store) (limits : Settings) (now : Instant) :
    (∀ ids : List Json, ((Operation.getNodes username ids).run limits now v).1 =
      ((Operation.getNodes username ids).run limits now w).1) ∧
    ∀ after equality patterns : Json,
      (∀ id, Identifier.parseOptional (some "after") after = .ok (some id) →
        (v.store.hasNode id ↔ w.store.hasNode id)) →
      ((Operation.searchNodes username after equality patterns).run limits now v).1 =
        ((Operation.searchNodes username after equality patterns).run limits now w).1 := by
  constructor
  · intro ids
    simp only [Operation.run, Operation.reading, get_isolated h hv hw]
  · intro after equality patterns hcursor
    have hboth : ∀ id, Identifier.parseOptional (some "after") after = .ok (some id) →
        v.store.hasNode id = w.store.hasNode id := fun id hid =>
      Bool.eq_iff_iff.mpr (hcursor id hid)
    simp only [Operation.run, Operation.reading, search_isolated h hv hw limits _ _ _ hboth]

namespace Sample

/-- Not for the first user. -/
def secret : FileNode :=
  .ofFields "5f1d7a00aa00bb00cc000013" "bert" 2700 2700 "Secret" "" [] .null []

/-- The store with another file in the place of the one that the first user does not see. -/
def redacted : Store := { store with files := [secret, score, song] }

end Sample

theorem reads_isolated_sample :
    Sample.store.Keyed ∧ Sample.redacted.Keyed ∧ Sample.store.SameFor "anna" Sample.redacted ∧
    ((Operation.getNodes "anna" [.str "5f1d7a00aa00bb00cc000012"]).run {} ⟨0⟩
        ⟨Sample.store, ⟨0, 0⟩⟩).1 =
      ((Operation.getNodes "anna" [.str "5f1d7a00aa00bb00cc000012"]).run {} ⟨0⟩
        ⟨Sample.redacted, ⟨0, 0⟩⟩).1 ∧
    ((Operation.searchNodes "anna" (.str "5F1D7A00AA00BB00CC000020") Sample.equality
        Sample.patterns).run {} ⟨0⟩ ⟨Sample.store, ⟨0, 0⟩⟩).1 =
      ((Operation.searchNodes "anna" (.str "5F1D7A00AA00BB00CC000020") Sample.equality
        Sample.patterns).run {} ⟨0⟩ ⟨Sample.redacted, ⟨0, 0⟩⟩).1 := by
  have ht : Sample.redacted.Keyed := ⟨by decide, by decide⟩
  have h : Sample.store.SameFor "anna" Sample.redacted := by
    refine ⟨fun u => Iff.rfl, fun n hn => ?_⟩
    simp only [Sample.store, Sample.redacted, Store.nodes, List.mem_append, List.mem_map,
      List.mem_cons, List.not_mem_nil, or_false, exists_eq_or_imp, exists_eq_left]
    have hdiary : ¬ (Node.file Sample.diary).VisibleTo "anna" := by decide
    have hsecret : ¬ (Node.file Sample.secret).VisibleTo "anna" := by decide
    have hne : n ≠ .file Sample.diary ∧ n ≠ .file Sample.secret :=
      ⟨fun e => hdiary (e ▸ hn), fun e => hsecret (e ▸ hn)⟩
    simp only [eq_comm (b := n), hne, or_false, false_or]
    exact or_congr_left or_comm
  have hcursor : ∀ id, Identifier.parseOptional (some "after")
      (.str "5F1D7A00AA00BB00CC000020") = .ok (some id) →
        (Sample.store.hasNode id ↔ Sample.redacted.hasNode id) := by
    rintro id ⟨⟩
    exact ⟨fun _ => rfl, fun _ => rfl⟩
  obtain ⟨hget, hsearch⟩ := reads_isolated (v := ⟨Sample.store, ⟨0, 0⟩⟩)
    (w := ⟨Sample.redacted, ⟨0, 0⟩⟩) Sample.store_keyed ht h {} ⟨0⟩
  exact ⟨Sample.store_keyed, ht, h, hget _, hsearch _ _ _ hcursor⟩

end FileShare

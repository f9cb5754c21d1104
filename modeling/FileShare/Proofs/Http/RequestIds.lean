import FileShare.Proofs.Http.Envelopes
import FileShare.Proofs.Runs.Failures
import FileShare.Proofs.Search.MatcherTexts

/-! # Which responses carry the identifier of their request

A response carries the identifier that came with the request, whatever it answers, unless the
request broke down. In a store that calls have made there are few ways to break down: a search whose
matcher goes beyond what the readers or the store can take, a text without a UTF-8 form in a body or
in a key, a response with such a text, and an authentication whose body is no object and cannot be
sent back.
-/
namespace FileShare
namespace Http

/-! ## Responses that are lost -/

/-- There is no response to the result, or it has no text. -/
def Lost : Except Failure Reply → Prop
  | .ok reply => ¬ reply.Encodes
  | .error (.rejected cause) => ¬ cause.Encodes
  | .error (.broken _) => True

theorem ofResult_lost_iff (endpoint : Endpoint) {result : Except Failure Reply}
    (h : ∀ reply, result = .ok reply → ∀ n ∈ reply.nodeList, n.Regular) :
    ((ofResult endpoint result).filter fun response => response.content.canSend) = none ↔
      Lost result := by
  cases result with
  | error e =>
    cases e with
    | broken => exact iff_of_true rfl trivial
    | rejected cause =>
      rw [ofResult, ofFailure, Lost, ← canSend_rejection]
      simp [Option.filter_some]
  | ok reply =>
    rw [Lost]
    by_cases hencodes : reply.Encodes
    · refine iff_of_false ?_ (not_not.mpr hencodes)
      by_cases hdata : ∀ b, reply ≠ .answer b
      · obtain ⟨shown, _, hsend, hresult⟩ :=
          ofResult_of_encodes endpoint hdata (h reply rfl) hencodes
        rw [hresult, success, Option.filter_some, if_pos (canSend_envelope.mpr ⟨rfl, hsend⟩)]
        exact Option.some_ne_none _
      · simp only [ne_eq, not_forall, not_not] at hdata
        obtain ⟨b, rfl⟩ := hdata
        cases b <;> exact Option.some_ne_none _
    · rw [ofResult_eq_none endpoint hencodes]
      exact iff_of_true rfl hencodes

theorem canSend_unread {payload : Payload} {response : Response}
    (h : readBody payload = .error response) : response.content.canSend := by
  unfold readBody at h
  split at h
  · cases h
    rfl
  · cases h
    rfl
  · dsimp only at h
    split at h <;> cases h <;> rfl
  · cases h
    rfl
  · cases h

section Dealing
variable {limits : Settings} {now : Instant} {w w' : World} {r : Request}

theorem Dealt.sendable_or_led {response? : Option Response}
    (h : Dealt limits now w r response? w') :
    (∃ response, response? = some response ∧ response.content.canSend) ∨
      ∃ endpoint texts body, r.LeadsTo endpoint texts body := by
  cases h with
  | unknown => exact .inl ⟨_, rfl, canSend_astray _ _⟩
  | otherMethod | page | health => exact .inl ⟨_, rfl, rfl⟩
  | unreadable _ _ unread => exact .inl ⟨_, rfl, canSend_unread unread⟩
  | refused led | misshapen led | run led => exact .inr ⟨_, _, _, led⟩

theorem Request.Breaks.led (h : r.Breaks limits now w) :
    preflight? r = none ∧ ∃ endpoint texts body, r.LeadsTo endpoint texts body := by
  cases hpreflight : preflight? r with
  | some response =>
    rw [Breaks, answer, hpreflight] at h
    cases h
  | none =>
    refine ⟨rfl, ?_⟩
    rw [Breaks, Http.answer_eq hpreflight] at h
    obtain ⟨response, hresponse, hsend⟩ | hled := (dispatch_dealt limits now w r).sendable_or_led
    · simp [hresponse, Option.filter_some, hsend] at h
    · exact hled

variable {endpoint : Endpoint} {texts : List String} {body : Option Json}
  (led : r.LeadsTo endpoint texts body)
include led

theorem Request.LeadsTo.breaks_iff {asked : Except Failure Operation}
    (asks : operation? endpoint texts r.query body = asked.map some)
    (h : ∀ reply, (outcome limits now w asked).1 = .ok reply → ∀ n ∈ reply.nodeList, n.Regular) :
    r.Breaks limits now w ↔ Lost (outcome limits now w asked).1 := by
  rw [Breaks, led.answer_eq, serve_eq asks, ← ofResult_lost_iff endpoint h]

theorem Request.LeadsTo.breaks_iff_run {op : Operation}
    (asks : operation? endpoint texts r.query body = .ok (some op))
    (h : ∀ reply, (op.run limits now w).1 = .ok reply → ∀ n ∈ reply.nodeList, n.Regular) :
    r.Breaks limits now w ↔ Lost (op.run limits now w).1 := by
  rw [Breaks, led.answer_eq, serve, asks, ← ofResult_lost_iff endpoint h]

theorem Request.LeadsTo.breaks_iff_of_misshapen
    (asks : operation? endpoint texts r.query body = .ok none) :
    r.Breaks limits now w ↔ ∀ v, body = some v → ¬ canSend v := by
  rw [Breaks, led.answer_eq, serve, asks]
  cases body with
  | none => simp [notAnObject]
  | some v => simp [notAnObject, invalidRequest, envelope, Content.canSend, Option.filter_some]

end Dealing

/-! ## What endpoints ask for -/

def holes (shape : List Part) : Nat :=
  shape.countP fun
    | .fixed _ => false
    | .segment | .tail => true

theorem length_of_fit? {shape : List Part} {path : List Char} {texts : List String}
    (h : fit? shape path = some texts) : texts.length = holes shape := by
  induction shape generalizing path texts with
  | nil =>
    rw [fit?] at h
    split at h <;> cases h
    rfl
  | cons part shape ih =>
    cases part with
    | fixed word =>
      obtain ⟨rest, _, hrest⟩ := Option.bind_eq_some_iff.mp h
      simpa [holes] using ih hrest
    | segment =>
      rw [fit?] at h
      split at h
      · cases h
      · obtain ⟨more, hmore, rfl⟩ := Option.map_eq_some_iff.mp h
        simpa [holes] using ih hmore
    | tail =>
      obtain ⟨more, hmore, rfl⟩ := Option.map_eq_some_iff.mp h
      simpa [holes] using ih hmore

def Endpoint.texts : Endpoint → Nat
  | .page _ | .health | .listUsers | .createUser => 0
  | .getUser | .updateUser | .deleteUser | .authenticate | .searchNodes | .createNode => 1
  | .getNodes | .updateNode | .deleteNodes => 2

theorem holes_routes : ∀ route ∈ routes, holes route.shape = route.endpoint.texts := by decide

theorem length_of_routed {r : Request} {endpoint : Endpoint} {texts : List String}
    (h : route r.method (unescapePath r.path) = .found endpoint texts) :
    texts.length = endpoint.texts := by
  have htells := route_tells r.method (unescapePath r.path)
  rw [h] at htells
  obtain ⟨route, hroute, _, rfl, hfit⟩ := htells
  rw [length_of_fit? hfit, holes_routes route hroute]

end Http

/-- An operation whose arguments cannot break it down. -/
def Operation.Steady : Operation → Prop
  | .searchNodes .. => False
  | .getNodes _ ids | .deleteNodes _ ids => ∃ texts : List String, ids = texts.map .str
  | _ => True

namespace Http

/-- What an endpoint asks for: nothing where the body is no object but has to be one, a search whose
texts have yet to be read, or an operation. -/
theorem Request.LeadsTo.asks {r : Request} {endpoint : Endpoint} {texts : List String}
    {body : Option Json} (led : r.LeadsTo endpoint texts body) :
    (endpoint = .authenticate ∧ (∀ entries, body ≠ some (.obj entries)) ∧
      operation? endpoint texts r.query body = .ok none) ∨
    (endpoint = .searchNodes ∧ ∃ u, texts = [u] ∧
      operation? endpoint texts r.query body = (r.search u).map some) ∨
    ∃ op, operation? endpoint texts r.query body = .ok (some op) ∧ op.Steady := by
  have hlength := length_of_routed led.routed
  cases endpoint with
  | health => exact absurd rfl led.other
  | page p => exact absurd rfl (led.own p)
  | listUsers | createUser =>
    obtain rfl := List.length_eq_zero_iff.mp hlength
    exact .inr (.inr ⟨_, rfl, trivial⟩)
  | getUser | updateUser | deleteUser | createNode =>
    obtain ⟨u, rfl⟩ := List.length_eq_one_iff.mp hlength
    exact .inr (.inr ⟨_, rfl, trivial⟩)
  | updateNode =>
    obtain ⟨u, id, rfl⟩ := List.length_eq_two.mp hlength
    exact .inr (.inr ⟨_, rfl, trivial⟩)
  | getNodes | deleteNodes =>
    obtain ⟨u, raw, rfl⟩ := List.length_eq_two.mp hlength
    exact .inr (.inr ⟨_, rfl, splitIds raw, rfl⟩)
  | authenticate =>
    obtain ⟨u, rfl⟩ := List.length_eq_one_iff.mp hlength
    cases body with
    | none => exact .inl ⟨rfl, nofun, rfl⟩
    | some v =>
      cases v with
      | obj entries => exact .inr (.inr ⟨_, rfl, trivial⟩)
      | null | bool | num | str | unpaired | arr => exact .inl ⟨rfl, nofun, rfl⟩
  | searchNodes =>
    obtain ⟨u, rfl⟩ := List.length_eq_one_iff.mp hlength
    have hneeds := led.read
    simp only [needsBody, Bool.false_eq_true, if_false] at hneeds
    exact .inr (.inl ⟨rfl, u, rfl, hneeds ▸ operation?_searchNodes u r⟩)

end Http

/-! ## What can break down -/

open Outcome

namespace Nodes
variable {limits : Settings} {s : Store} {username : String} {after equality patterns : Json}

/-- A search breaks down where its matcher does, or where the store gets a value that it does not
take. -/
theorem search_breaksBy {causes : Breakdown → Prop}
    (h : FailsOnly (Matcher.compile limits equality patterns) (Failure.BreaksBy causes)) :
    FailsOnly (search limits username after equality patterns s) (Failure.BreaksBy fun cause =>
      (cause = .integerTooWide ∨ cause = .notEncodable) ∨ causes cause) := by
  refine ((Identifier.parseOptional_fails _ after).mono Failure.BreaksBy.of_isRejection).bind
    fun cursor _ => ?_
  refine (h.mono (Failure.BreaksBy.mono fun _ => .inr)).bind fun m hm => ?_
  split
  · exact failsOnly_reject.mpr trivial
  · refine ((discard_require_fails s username).mono Failure.BreaksBy.of_isRejection).bind
      fun _ _ => ?_
    obtain ⟨hterms, halts⟩ := Matcher.compile_checked hm
    obtain ⟨p, hp, _, hanswers, _⟩ :=
      Query.ofMatcher_reads hterms halts username limits.resultsPerPage cursor
    rw [hp, ok_bind]
    cases hfault : p.fault? with
    | some fault =>
      rw [Query.fetch_of_fault hfault]
      exact failsOnly_breakDown.mpr (.inl (Query.Plan.fault?_eq_some hfault))
    | none =>
      obtain ⟨found, hfound⟩ := Query.exists_fetch hanswers hfault s
      rw [hfound]
      exact failsOnly_ok found

end Nodes

namespace Http
variable {limits : Settings} {now : Instant} {w : World} {r : Request}

/-- The texts of a search go beyond what their readers can take, or its matcher goes beyond what the
store can take. -/
def Request.Overtaxes (r : Request) (cause : Breakdown) : Prop :=
  (cause = .integerTooWide ∨ cause = .notEncodable) ∨
    Matcher.Overstrains (parameter? r.query "match") (parameter? r.query "regexMatch") cause

theorem Request.overtaxes_of_rejectedOr : ∀ e : Failure, Matcher.RejectedOr
    (Matcher.Overstrains (parameter? r.query "match") (parameter? r.query "regexMatch")) e →
    e.BreaksBy r.Overtaxes
  | .rejected _, _ => trivial
  | .broken _, he => .inr he

theorem search_breaksBy (limits : Settings) (now : Instant) (w : World) (r : Request) (u : String) :
    FailsOnly (outcome limits now w (r.search u)).1 (Failure.BreaksBy r.Overtaxes) := by
  cases hasked : r.search u with
  | error e =>
    have hreads : FailsOnly (r.search u) (Failure.BreaksBy r.Overtaxes) :=
      ((Matcher.readText_fails (.inl rfl)).bind fun _ _ =>
        (Matcher.readText_fails (.inr rfl)).bind fun _ _ => failsOnly_pure _).mono
          Request.overtaxes_of_rejectedOr
    exact failsOnly_error.mpr (hreads e hasked)
  | ok op =>
    obtain ⟨equality, hequality, hasked⟩ := bind_eq_ok.mp hasked
    obtain ⟨patterns, hpatterns, hasked⟩ := bind_eq_ok.mp hasked
    cases hasked
    have hcompile := @Matcher.ofTexts_fails limits (parameter? r.query "match")
      (parameter? r.query "regexMatch")
    rw [Matcher.ofTexts, hequality, ok_bind, hpatterns, ok_bind] at hcompile
    refine FailsOnly.map (Nodes.search_breaksBy (hcompile.mono Request.overtaxes_of_rejectedOr)
      |>.mono (Failure.BreaksBy.mono fun _ hcause => ?_)) _
    exact hcause.elim .inl id

end Http

/-- An operation other than a search is answered or rejected, unless it brings a text without a
UTF-8 form. A list of nodes that is too long is rejected, so those that are looked up are no more
than the store can count. -/
theorem Operation.Steady.run_fails {op : Operation} (hop : op.Steady) {limits : Settings}
    {now : Instant} {w : World} (hfresh : (Call.mk limits now w.generator op).Fresh w.store)
    (hpage : Store.fitsInteger limits.resultsPerPage)
    (hbatch : Store.fitsInteger limits.maxItemsPerRequest) :
    FailsOnly (op.run limits now w).1 (Failure.RejectsOr op.BringsUnpaired) := by
  have hspelled (texts : List String) :
      texts.map Json.str = (texts.map RawText.text).map Json.ofText := by
    rw [List.map_map]
    rfl
  cases op with
  | searchNodes => exact hop.elim
  | getNodes username ids =>
    obtain ⟨texts, rfl⟩ := hop
    by_cases hmany : limits.maxItemsPerRequest < texts.length
    · have hrefused : Nodes.get limits username (texts.map .str) w.store =
          reject (.tooMany "node_ids") := by
        rw [Nodes.get, Nodes.checkBatch, List.length_map, if_pos hmany]
        rfl
      exact FailsOnly.map (hrefused ▸ failsOnly_reject.mpr trivial) _
    · have hfew : (texts.map RawText.text).length < 2 ^ 63 := by
        have := (Store.fitsInteger_iff.mp hbatch).2
        rw [List.length_map]
        omega
      rw [hspelled]
      exact ((Nodes.get_fails limits w.store username _ hfew).map _).mono
        Failure.BreaksBy.of_isRejection
  | deleteNodes username ids =>
    obtain ⟨texts, rfl⟩ := hop
    rw [hspelled]
    exact (Operation.writing_fails (Nodes.delete_fails limits w.store username _) w).mono
      Failure.BreaksBy.of_isRejection
  | listUsers | getUser | createUser | updateUser | deleteUser | authenticate | createNode
    | updateNode => exact Call.result_fails hfresh hpage trivial (by simp)

namespace Http
variable {limits : Settings} {now : Instant} {w : World} {r : Request}

/-- The ways in which a request breaks down in a store that calls have made. -/
inductive Request.Strains (limits : Settings) (now : Instant) (w : World) (r : Request) : Prop
  | search {u : String} {cause : Breakdown}
      (routed : route r.method (unescapePath r.path) = .found .searchNodes [u])
      (broken : (outcome limits now w (r.search u)).1 = .error (.broken cause))
      (why : r.Overtaxes cause)
  | bring {endpoint : Endpoint} {texts : List String} {body : Option Json} {op : Operation}
      (led : r.LeadsTo endpoint texts body)
      (asks : operation? endpoint texts r.query body = .ok (some op))
      (broken : (op.run limits now w).1 = breakDown .notEncodable) (why : op.BringsUnpaired)
  | echo {u : String} {body : Option Json}
      (routed : route r.method (unescapePath r.path) = .found .authenticate [u])
      (read : readBody r.payload = .ok body) (shape : ∀ entries, body ≠ some (.obj entries))
      (unsendable : ∀ v, body = some v → ¬ canSend v)
  | refuse {endpoint : Endpoint} {texts : List String} {body : Option Json}
      {asked : Except Failure Operation} {cause : Rejection} (led : r.LeadsTo endpoint texts body)
      (asks : operation? endpoint texts r.query body = asked.map some)
      (rejected : (outcome limits now w asked).1 = .error (.rejected cause))
      (unsendable : ¬ cause.Encodes)
  | reply {endpoint : Endpoint} {texts : List String} {body : Option Json} {op : Operation}
      {reply : Reply} (led : r.LeadsTo endpoint texts body)
      (asks : operation? endpoint texts r.query body = .ok (some op))
      (answered : (op.run limits now w).1 = .ok reply) (unsendable : ¬ reply.Encodes)

section Reached
variable {allowed : Call → Store → Prop} (hw : Reachable allowed w.store)
include hw

theorem regular_of_outcome {asked : Except Failure Operation} :
    ∀ reply, (outcome limits now w asked).1 = .ok reply → ∀ n ∈ reply.nodeList, n.Regular := by
  intro reply hreply
  obtain ⟨op, rfl, hran⟩ := exists_operation hreply
  exact hw.regular_reply hran

theorem Request.Strains.breaks (h : r.Strains limits now w) : r.Breaks limits now w := by
  cases h with
  | @search u cause routed broken why =>
    have led : r.LeadsTo .searchNodes [u] none := ⟨routed, nofun, nofun, rfl⟩
    rw [led.breaks_iff (operation?_searchNodes u r) (regular_of_outcome hw), broken]
    trivial
  | bring led asks broken =>
    rw [led.breaks_iff_run asks fun _ => hw.regular_reply, broken]
    trivial
  | @echo u body routed read shape unsendable =>
    have led : r.LeadsTo .authenticate [u] body := ⟨routed, nofun, nofun, read⟩
    refine (led.breaks_iff_of_misshapen ?_).mpr unsendable
    rcases led.asks with ⟨_, _, hnone⟩ | ⟨⟨⟩, _⟩ | ⟨op, hop, _⟩
    · exact hnone
    · match body, shape with
      | some (.obj entries), shape => exact absurd rfl (shape entries)
      | none, _ | some .null, _ | some (.bool _), _ | some (.num _), _ | some (.str _), _
      | some (.unpaired ..), _ | some (.arr _), _ => rfl
  | refuse led asks rejected unsendable =>
    rw [led.breaks_iff asks (regular_of_outcome hw), rejected]
    exact unsendable
  | reply led asks answered unsendable =>
    rw [led.breaks_iff_run asks fun _ => hw.regular_reply, answered]
    exact unsendable

theorem Request.Breaks.strains (hfresh : ∀ op, (Call.mk limits now w.generator op).Fresh w.store)
    (hpage : Store.fitsInteger limits.resultsPerPage)
    (hbatch : Store.fitsInteger limits.maxItemsPerRequest) (h : r.Breaks limits now w) :
    r.Strains limits now w := by
  obtain ⟨_, endpoint, texts, body, led⟩ := h.led
  rcases led.asks with ⟨rfl, hshape, hnone⟩ | ⟨rfl, u, rfl, hsearch⟩ | ⟨op, hop, hsteady⟩
  · obtain ⟨u, rfl⟩ := List.length_eq_one_iff.mp (length_of_routed led.routed)
    exact .echo led.routed led.read hshape ((led.breaks_iff_of_misshapen hnone).mp h)
  · have hlost := (led.breaks_iff hsearch (regular_of_outcome hw)).mp h
    match hresult : (outcome limits now w (r.search u)).1 with
    | .error (.broken cause) =>
      exact .search led.routed hresult (search_breaksBy limits now w r u _ hresult)
    | .error (.rejected cause) =>
      rw [hresult] at hlost
      exact .refuse led hsearch hresult hlost
    | .ok reply =>
      rw [hresult] at hlost
      obtain ⟨op, hop, hran⟩ := exists_operation hresult
      rw [hop] at hsearch
      exact .reply led hsearch hran hlost
  · have hlost := (led.breaks_iff_run hop fun _ => hw.regular_reply).mp h
    match hresult : (op.run limits now w).1 with
    | .error (.broken cause) =>
      obtain ⟨rfl, hbrings⟩ := hsteady.run_fails (hfresh op) hpage hbatch _ hresult
      exact .bring led hop hresult hbrings
    | .error (.rejected cause) =>
      rw [hresult] at hlost
      exact @Strains.refuse _ _ _ _ _ _ _ (.ok op) _ led hop hresult hlost
    | .ok reply =>
      rw [hresult] at hlost
      exact .reply led hop hresult hlost

end Reached

/-- The report of a request that breaks down is made outside the part that adds its identifier. -/
theorem Request.Breaks.respond_eq (h : r.Breaks limits now w) :
    (respond limits now w r).1 = internalError limits.debug := by
  rw [respond_of_none (Prod.ext h rfl)]

theorem respond_requestId {id : String} (given : r.requestId = some id) (nonempty : id ≠ "")
    (answered : ¬ r.Breaks limits now w) : (respond limits now w r).1.requestId = some id := by
  obtain ⟨response, hresponse⟩ := Option.ne_none_iff_exists'.mp answered
  rw [respond_of_some (Prod.ext hresponse rfl)]
  simp [given, Option.filter, nonempty]

end Http

open Http

namespace Sample

def marked : Http.Request := { visit with requestId := some "req-123" }

/-- The pattern repeats a letter more often than a reader of patterns can count. -/
def overdone : Http.Request where
  method := "GET"
  path := "/api/v1/filesystem/anna/search"
  query := [("regexMatch", "\x7b\"text\": \"a\x7b99999999999\x7d\"\x7d")]
  requestId := some "req-123"

theorem marked_leadsTo : marked.LeadsTo .getNodes
    ["bert", "5F5E10000000000007000003/5f5e10000000000007000004"] none :=
  ⟨rfl, nofun, nofun, rfl⟩

theorem marked_answered : ¬ marked.Breaks {} ⟨1600000000000000⟩ ⟨shelf, ⟨7, 5⟩⟩ := by
  have hasks : operation? .getNodes ["bert", "5F5E10000000000007000003/5f5e10000000000007000004"]
      marked.query none = .ok (some (.getNodes "bert"
        [.str "5F5E10000000000007000003", .str "5f5e10000000000007000004"])) := rfl
  rw [marked_leadsTo.breaks_iff_run hasks fun _ => shelf_reachable.regular_reply]
  exact not_not.mpr visit_reply_encodes

end Sample

end FileShare

import FileShare.Proofs.Http.Paths
import FileShare.Proofs.Http.Sendable
import FileShare.Proofs.Runs.KeySecrecy

/-! # Requests run operations

A request whose path is made from a name and from identifiers, and whose body is an object, leads to
one operation with just these arguments. Its response tells what the operation comes to, nothing is
left out of the data, and the world is the one that the operation leaves. Where the response has no
UTF-8 text, the request breaks down after the operation was run.
-/
namespace FileShare
namespace Http

/-! ## What a request asks for -/

namespace Request
variable {limits : Settings} {r : Request}

/-- The path of the request is the given one, as it stands or with escapes. -/
def Names (r : Request) (path : String) : Prop :=
  r.path = path ∨ unescapePath r.path = path.toList

/-- The body of the request is the text of an object, with or without a byte order mark. -/
def Holds (r : Request) (entries : Json.Object) : Prop :=
  ∃ text given : RawText, r.payload = .json given ∧
    (given = text ∨ given.points = .char '\ufeff' :: text.points) ∧
    Json.readText text.points = .ok (.obj entries)

/-- The operation that a search asks for. The texts of its matchers may turn out to be none. -/
def search (r : Request) (u : String) : Except Failure Operation := do
  let equality ← Matcher.readText "match" (parameter? r.query "match")
  let patterns ← Matcher.readText "regexMatch" (parameter? r.query "regexMatch")
  return .searchNodes u (Json.ofOption .str (parameter? r.query "after")) equality patterns

/-- What a request with a well-formed path and a readable body asks for. -/
inductive Asks (limits : Settings) (r : Request) : Except Failure Operation → Prop
  | listUsers (method : r.method = "GET") (path : r.Names usersPath) :
      Asks limits r (.ok (.listUsers (Json.ofOption .str (parameter? r.query "after"))))
  | createUser {body : Json.Object} (method : r.method = "POST") (path : r.Names usersPath)
      (holds : r.Holds body) : Asks limits r (.ok (.createUser (.obj body)))
  | getUser {u : String} (shaped : Username.isShaped limits u) (method : r.method = "GET")
      (path : r.Names (usersPath ++ "/" ++ u)) : Asks limits r (.ok (.getUser u))
  | updateUser {u : String} {body : Json.Object} (shaped : Username.isShaped limits u)
      (method : r.method = "PATCH") (path : r.Names (usersPath ++ "/" ++ u))
      (holds : r.Holds body) : Asks limits r (.ok (.updateUser u (.obj body)))
  | deleteUser {u : String} (shaped : Username.isShaped limits u) (method : r.method = "DELETE")
      (path : r.Names (usersPath ++ "/" ++ u)) : Asks limits r (.ok (.deleteUser u))
  | searchNodes {u : String} (shaped : Username.isShaped limits u) (method : r.method = "GET")
      (path : r.Names (nodesPath ++ u ++ "/search")) : Asks limits r (r.search u)
  | createNode {u : String} {body : Json.Object} (shaped : Username.isShaped limits u)
      (method : r.method = "POST") (path : r.Names (nodesPath ++ u)) (holds : r.Holds body) :
      Asks limits r (.ok (.createNode u (.obj body)))
  | getNodes {u : String} {ids : List String} (shaped : Username.isShaped limits u)
      (valid : ∀ id ∈ ids, Identifier.isValid id) (method : r.method = "GET")
      (path : r.Names (nodesPath ++ u ++ "/" ++ joined ids)) :
      Asks limits r (.ok (.getNodes u (ids.map .str)))
  | updateNode {u id : String} {body : Json.Object} (shaped : Username.isShaped limits u)
      (valid : Identifier.isValid id) (method : r.method = "PATCH")
      (path : r.Names (nodesPath ++ u ++ "/" ++ id)) (holds : r.Holds body) :
      Asks limits r (.ok (.updateNode u (.str id) (.obj body)))
  | deleteNodes {u : String} {ids : List String} (shaped : Username.isShaped limits u)
      (valid : ∀ id ∈ ids, Identifier.isValid id) (method : r.method = "DELETE")
      (path : r.Names (nodesPath ++ u ++ "/" ++ joined ids)) :
      Asks limits r (.ok (.deleteNodes u (ids.map .str)))

theorem Names.unescapePath_eq {path : String} (h : r.Names path) (hplain : '%' ∉ path.toList) :
    unescapePath r.path = path.toList := by
  rcases h with h | h
  · rw [h, unescapePath_plain hplain]
  · exact h

theorem readBody_json {given : RawText} {points : List CodePoint} {v : Json}
    (hsome : given ≠ .text "")
    (hpoints : given.points = points ∨ given.points = .char '\ufeff' :: points)
    (hread : Json.readText points = .ok v) : readBody (.json given) = .ok (some v) := by
  unfold readBody
  split
  · rename_i hnone
    cases hnone
  · rename_i hempty
    cases hempty
    exact absurd rfl hsome
  · rename_i hgiven
    cases hgiven
    split
    -- A text that can be read does not begin with a mark itself, so no mark is left over.
    · rename_i hmark
      rcases hpoints with rfl | hpoints
      · rw [hmark] at hread
        cases hread
      · cases hmark.symm.trans hpoints
        simp only [hread]
    · rename_i hunmarked
      rcases hpoints with rfl | hpoints
      · simp only [hread]
      · exact absurd hpoints (hunmarked points)
  · rename_i hundecodable
    cases hundecodable
  · rename_i hbytes
    cases hbytes

theorem Holds.readBody_eq {entries : Json.Object} (h : r.Holds entries) :
    readBody r.payload = .ok (some (.obj entries)) := by
  obtain ⟨text, given, hpayload, hgiven, hread⟩ := h
  rw [hpayload]
  refine readBody_json ?_ (hgiven.imp (congrArg RawText.points) id) hread
  rintro rfl
  rcases hgiven with rfl | hmarked
  · cases hread
  · cases hmarked

end Request

/-! ## Dispatch -/

/-- What comes of that which a request asks for. -/
def outcome (limits : Settings) (now : Instant) (w : World) :
    Except Failure Operation → Except Failure Reply × World
  | .ok op => op.run limits now w
  | .error e => (.error e, w)

/-- The request leads to an endpoint that asks for an operation, with the texts of its path and a
body where one is needed. -/
structure Request.LeadsTo (r : Request) (endpoint : Endpoint) (texts : List String)
    (body : Option Json) : Prop where
  routed : route r.method (unescapePath r.path) = .found endpoint texts
  other : endpoint ≠ .health
  own : ∀ p, endpoint ≠ .page p
  read : if needsBody endpoint then readBody r.payload = .ok body else body = none

section Dispatch
variable {limits : Settings} {now : Instant} {w : World} {r : Request} {endpoint : Endpoint}
  {texts : List String} {asked : Except Failure Operation}

theorem serve_eq {query : Entries String} {body : Option Json}
    (hasked : operation? endpoint texts query body = asked.map some) :
    serve limits now w endpoint texts query body =
      (ofResult endpoint (outcome limits now w asked).1, (outcome limits now w asked).2) := by
  rw [serve, hasked]
  cases asked <;> rfl

theorem Request.LeadsTo.dispatch_eq {body : Option Json} (led : r.LeadsTo endpoint texts body) :
    dispatch limits now w r = serve limits now w endpoint texts r.query body := by
  obtain ⟨routed, other, own, read⟩ := led
  unfold dispatch
  rw [routed]
  cases endpoint with
  | health => exact absurd rfl other
  | page p => exact absurd rfl (own p)
  | createUser | updateUser | authenticate | createNode | updateNode =>
    simp only [needsBody, if_true] at read ⊢
    rw [read]
  | listUsers | getUser | deleteUser | searchNodes | getNodes | deleteNodes =>
    simp only [needsBody, Bool.false_eq_true, if_false] at read ⊢
    rw [read]

variable {path : String} (hpath : r.Names path) (hplain : '%' ∉ path.toList)
  (hroute : route r.method path.toList = .found endpoint texts)
include hpath hplain hroute

theorem leadsTo_bodiless (hother : endpoint ≠ .health) (hpage : ∀ p, endpoint ≠ .page p)
    (hneeds : needsBody endpoint = false) : r.LeadsTo endpoint texts none where
  routed := hpath.unescapePath_eq hplain ▸ hroute
  other := hother
  own := hpage
  read := by simp [hneeds]

theorem leadsTo_body {body : Json.Object} (hother : endpoint ≠ .health)
    (hpage : ∀ p, endpoint ≠ .page p) (hneeds : needsBody endpoint = true)
    (hbody : r.Holds body) : r.LeadsTo endpoint texts (some (.obj body)) where
  routed := hpath.unescapePath_eq hplain ▸ hroute
  other := hother
  own := hpage
  read := by simp [hneeds, hbody.readBody_eq]

end Dispatch

/-! ## Routing -/

theorem operation?_searchNodes (u : String) (r : Request) :
    operation? .searchNodes [u] r.query none = (r.search u).map some := by
  rw [operation?, Request.search]
  cases Matcher.readText "match" (parameter? r.query "match") with
  | error e => rfl
  | ok equality => cases Matcher.readText "regexMatch" (parameter? r.query "regexMatch") <;> rfl

theorem splitIds_of_valid {ids : List String} (valid : ∀ id ∈ ids, Identifier.isValid id) :
    splitIds (joined ids) = ids :=
  splitIds_joined fun id hid => isSegment_of_id (valid id hid)

section Plain
variable {u : String} (hu : IsSegment u)
include hu

theorem plain_user : '%' ∉ (usersPath ++ "/" ++ u).toList := by simp [usersPath, hu.percent]

theorem plain_nodes : '%' ∉ (nodesPath ++ u).toList := by simp [nodesPath, hu.percent]

theorem plain_below {rest : String} (hrest : '%' ∉ rest.toList) :
    '%' ∉ (nodesPath ++ u ++ "/" ++ rest).toList := by
  simp [nodesPath, hu.percent, hrest]

end Plain

theorem plain_joined {ids : List String} (valid : ∀ id ∈ ids, Identifier.isValid id) :
    '%' ∉ (joined ids).toList :=
  notMem_joined (by decide) fun id hid => (isSegment_of_id (valid id hid)).percent

/-- What is asked for is what the endpoint asks for that the request leads to. -/
theorem Request.Asks.leadsTo {limits : Settings} {r : Request} {asked : Except Failure Operation}
    (h : r.Asks limits asked) : ∃ endpoint texts body, r.LeadsTo endpoint texts body ∧
      operation? endpoint texts r.query body = asked.map some := by
  cases h with
  | listUsers method path =>
    have hroute := method ▸ route_listUsers
    exact ⟨_, _, _, leadsTo_bodiless path (by decide) hroute nofun nofun rfl, rfl⟩
  | createUser method path holds =>
    have hroute := method ▸ route_createUser
    exact ⟨_, _, _, leadsTo_body path (by decide) hroute nofun nofun rfl holds, rfl⟩
  | getUser shaped method path =>
    have hu := isSegment_of_username shaped
    have hroute := method ▸ route_getUser hu
    exact ⟨_, _, _, leadsTo_bodiless path (plain_user hu) hroute nofun nofun rfl, rfl⟩
  | updateUser shaped method path holds =>
    have hu := isSegment_of_username shaped
    have hroute := method ▸ route_updateUser hu
    exact ⟨_, _, _, leadsTo_body path (plain_user hu) hroute nofun nofun rfl holds, rfl⟩
  | deleteUser shaped method path =>
    have hu := isSegment_of_username shaped
    have hroute := method ▸ route_deleteUser hu
    exact ⟨_, _, _, leadsTo_bodiless path (plain_user hu) hroute nofun nofun rfl, rfl⟩
  | @searchNodes u shaped method path =>
    have hu := isSegment_of_username shaped
    have hplain : '%' ∉ (nodesPath ++ u ++ "/search").toList := by simp [nodesPath, hu.percent]
    have hroute := method ▸ route_searchNodes hu
    exact ⟨_, _, _, leadsTo_bodiless path hplain hroute nofun nofun rfl, operation?_searchNodes u r⟩
  | createNode shaped method path holds =>
    have hu := isSegment_of_username shaped
    have hroute := method ▸ route_createNode hu
    exact ⟨_, _, _, leadsTo_body path (plain_nodes hu) hroute nofun nofun rfl holds, rfl⟩
  | getNodes shaped valid method path =>
    have hu := isSegment_of_username shaped
    have hroute := method ▸ route_getNodes hu valid
    exact ⟨_, _, _, leadsTo_bodiless path (plain_below hu (plain_joined valid)) hroute nofun nofun
      rfl, by simp only [operation?, splitIds_of_valid valid, Except.map]⟩
  | updateNode shaped valid method path holds =>
    have hu := isSegment_of_username shaped
    have hid := isSegment_of_id valid
    have hroute := method ▸ route_updateNode hu hid
    exact ⟨_, _, _, leadsTo_body path (plain_below hu hid.percent) hroute nofun nofun rfl holds,
      rfl⟩
  | deleteNodes shaped valid method path =>
    have hu := isSegment_of_username shaped
    have hroute := method ▸ route_deleteNodes hu valid
    exact ⟨_, _, _, leadsTo_bodiless path (plain_below hu (plain_joined valid)) hroute nofun nofun
      rfl, by simp only [operation?, splitIds_of_valid valid, Except.map]⟩

/-! ## Answers -/

/-- The response is the envelope of a status, a message and data, whose entries may stand in another
order. -/
structure Response.Carries (response : Response) (code : Nat) (message : RawText) (data : Json) :
    Prop where
  status : response.status = code
  content : ∃ shown : Json, shown.Same data ∧ response.content =
    .json (.obj [("msg", .ofText message), ("data", shown), ("code", .int code)])

section Layers
variable {limits : Settings} {now : Instant} {w w' : World} {r : Request}

theorem preflight?_eq_none (h : r.method ≠ "OPTIONS") : preflight? r = none := by
  unfold preflight?
  split
  · exact if_pos h
  · rfl

theorem answer_eq (h : preflight? r = none) : answer limits now w r =
    ((dispatch limits now w r).1.filter fun response => response.content.canSend,
      (dispatch limits now w r).2) := by
  rw [answer, h]

theorem respond_of_some {response : Response} (h : answer limits now w r = (some response, w')) :
    respond limits now w r = ({ response with requestId := r.requestId.filter (· ≠ "") }, w') := by
  rw [respond, h]

theorem respond_of_none (h : answer limits now w r = (none, w')) :
    respond limits now w r = (internalError limits.debug, w') := by
  rw [respond, h]

theorem respond_world : (respond limits now w r).2 = (answer limits now w r).2 := by
  unfold respond
  split <;> simp_all

end Layers

theorem ofResult_of_encodes (endpoint : Endpoint) {reply : Reply} (hdata : ∀ b, reply ≠ .answer b)
    (hnodes : ∀ n ∈ reply.nodeList, n.Regular) (hencodes : reply.Encodes) :
    ∃ shown, shown.Same reply.toJson ∧ canSend shown ∧
      ofResult endpoint (.ok reply) = some (success (successMessage endpoint) shown) := by
  obtain ⟨shown, hshown, hsame⟩ := shownReply?_of_regular hnodes hencodes
  refine ⟨shown, hsame, canSend_shownReply hnodes hshown, ?_⟩
  cases reply with
  | answer b => exact absurd rfl (hdata b)
  | done | user | users | node | nodes => simp only [ofResult, hshown, Option.map_some]

theorem ofResult_eq_none (endpoint : Endpoint) {reply : Reply} (h : ¬ reply.Encodes) :
    ofResult endpoint (.ok reply) = none := by
  cases reply with
  | answer => exact absurd (fun n hn => absurd hn List.not_mem_nil) h
  | done | user | users | node | nodes =>
    simp only [ofResult, shownReply?_eq_none h, Option.map_none]

section Led
variable {limits : Settings} {now : Instant} {w : World} {r : Request} {endpoint : Endpoint}
  {texts : List String} {body : Option Json}

theorem Request.LeadsTo.method_ne (led : r.LeadsTo endpoint texts body) : r.method ≠ "OPTIONS" := by
  have htells := route_tells r.method (unescapePath r.path)
  rw [led.routed] at htells
  obtain ⟨route, hroute, hmethod, _⟩ := htells
  exact hmethod ▸ method_of_routes route hroute

/-- A request that leads to an operation is no preflight, so its answer is what was served. -/
theorem Request.LeadsTo.answer_eq (led : r.LeadsTo endpoint texts body) : answer limits now w r =
    ((serve limits now w endpoint texts r.query body).1.filter fun response =>
      response.content.canSend, (serve limits now w endpoint texts r.query body).2) := by
  rw [Http.answer_eq (preflight?_eq_none led.method_ne), led.dispatch_eq]

end Led

/-- The outcome is answered if there is a text of the answer. -/
theorem Request.Asks.answer_eq {limits : Settings} {r : Request}
    {asked : Except Failure Operation} (h : r.Asks limits asked) (now : Instant) (w : World) :
    ∃ endpoint, answer limits now w r =
      ((ofResult endpoint (outcome limits now w asked).1).filter fun response =>
        response.content.canSend, (outcome limits now w asked).2) := by
  obtain ⟨endpoint, texts, body, led, hasked⟩ := h.leadsTo
  exact ⟨endpoint, by rw [led.answer_eq, serve_eq hasked]⟩

end Http

theorem Operation.run_ne_answer {op : Operation} (h : op.isAuthentication = false)
    (limits : Settings) (now : Instant) (w : World) (b : Bool) :
    (op.run limits now w).1 ≠ .ok (.answer b) := by
  intro hanswer
  cases op with
  | authenticate => cases h
  | updateUser | deleteUser | updateNode | deleteNodes => cases (writing_eq_ok hanswer).2
  | listUsers | getUser | getNodes | searchNodes | createUser | createNode =>
    obtain ⟨_, _, hreply⟩ := Outcome.map_eq_ok.mp hanswer
    cases hreply

theorem Http.Request.Asks.not_isAuthentication {limits : Settings} {r : Request}
    {asked : Except Failure Operation} (h : r.Asks limits asked) {op : Operation}
    (hasked : asked = .ok op) : op.isAuthentication = false := by
  cases h with
  | searchNodes =>
    obtain ⟨_, _, hasked⟩ := Outcome.bind_eq_ok.mp hasked
    obtain ⟨_, _, hasked⟩ := Outcome.bind_eq_ok.mp hasked
    cases hasked
    rfl
  | listUsers | createUser | getUser | updateUser | deleteUser | createNode | getNodes | updateNode
    | deleteNodes =>
    cases hasked
    rfl

theorem Reachable.regular_reply {allowed : Call → Store → Prop} {w : World}
    (hw : Reachable allowed w.store) {limits : Settings} {now : Instant} {op : Operation}
    {reply : Reply} (hreply : (op.run limits now w).1 = .ok reply) :
    ∀ n ∈ reply.nodeList, n.Regular := by
  let c : Call := ⟨limits, now, w.generator, op⟩
  have hstored := (c.effect w.store).regular hw.regular
  exact fun n hn => hstored n (c.mem_of_reply hreply hn)

theorem Http.exists_operation {limits : Settings} {now : Instant} {w : World}
    {asked : Except Failure Operation} {reply : Reply}
    (h : (outcome limits now w asked).1 = .ok reply) :
    ∃ op, asked = .ok op ∧ (op.run limits now w).1 = .ok reply := by
  cases asked with
  | error e => cases h
  | ok op => exact ⟨op, rfl, h⟩

open Http

variable {limits : Settings} {w : World} {r : Http.Request} {asked : Except Failure Operation}

/-- A request with a well-formed path and a readable body comes to what the operation that it names
comes to, and the world is the one that the operation leaves. A reply is answered in full, a
rejection with its status, its message and its data. The request breaks down where the operation
does, and where a lock in the reply names a client without a UTF-8 form or the rejection repeats a
text without one. -/
theorem requests_run_operations {allowed : Call → Store → Prop} (hw : Reachable allowed w.store)
    (hasked : r.Asks limits asked) (now : Instant) :
    (respond limits now w r).2 = (outcome limits now w asked).2 ∧
      (∀ reply, (outcome limits now w asked).1 = .ok reply →
        (reply.Encodes → ∃ message, (respond limits now w r).1.Carries 200 message reply.toJson) ∧
        (¬ reply.Encodes → (respond limits now w r).1 = internalError limits.debug)) ∧
      (∀ cause, (outcome limits now w asked).1 = .error (.rejected cause) →
        (cause.Encodes →
          (respond limits now w r).1.Carries cause.status cause.message cause.data) ∧
        (¬ cause.Encodes → (respond limits now w r).1 = internalError limits.debug)) ∧
      ∀ cause, (outcome limits now w asked).1 = .error (.broken cause) →
        (respond limits now w r).1 = internalError limits.debug := by
  obtain ⟨endpoint, hanswer⟩ := hasked.answer_eq now w
  refine ⟨?_, fun reply hreply => ⟨fun hencodes => ?_, fun hencodes => ?_⟩,
    fun cause hcause => ⟨fun hencodes => ?_, fun hencodes => ?_⟩, fun cause hcause => ?_⟩
  · rw [respond_world, hanswer]
  · obtain ⟨op, rfl, hran⟩ := exists_operation hreply
    obtain ⟨shown, hsame, hsend, hresult⟩ := ofResult_of_encodes endpoint
      (fun b hb => op.run_ne_answer (hasked.not_isAuthentication rfl) limits now w b (hb ▸ hran))
      (hw.regular_reply hran) hencodes
    rw [hreply, hresult, success, Option.filter_some,
      if_pos (canSend_envelope.mpr ⟨rfl, hsend⟩)] at hanswer
    rw [respond_of_some hanswer]
    exact ⟨successMessage endpoint, rfl, shown, hsame, rfl⟩
  · rw [hreply, ofResult_eq_none endpoint hencodes] at hanswer
    rw [respond_of_none hanswer]
  · rw [hcause, ofResult, ofFailure, Option.filter_some,
      if_pos (canSend_rejection.mpr hencodes)] at hanswer
    rw [respond_of_some hanswer]
    exact ⟨rfl, cause.data, .refl _, rfl⟩
  · rw [hcause, ofResult, ofFailure, Option.filter_some,
      if_neg (mt canSend_rejection.mp hencodes)] at hanswer
    rw [respond_of_none hanswer]
  · rw [hcause] at hanswer
    rw [respond_of_none hanswer]

namespace Sample

/-- One letter of the name is escaped, and one identifier is in upper case. -/
def visit : Http.Request where
  method := "GET"
  path := "/api/v1/filesystem/%62ert/5F5E10000000000007000003/5f5e10000000000007000004"

theorem visit_asks : visit.Asks Sample.limits (.ok (.getNodes "bert"
    [.str "5F5E10000000000007000003", .str "5f5e10000000000007000004"])) :=
  @Http.Request.Asks.getNodes _ _ "bert" ["5F5E10000000000007000003", "5f5e10000000000007000004"]
    (by decide) (by decide) rfl (.inr (by decide))

theorem visit_reply_encodes : (Reply.nodes [.metaNode record, .file track]).Encodes := by
  intro n hn
  rcases List.mem_pair.mp hn with rfl | rfl
  · trivial
  · rintro _ ⟨⟩

end Sample

theorem requests_run_operations_sample :
    Reachable Call.Fresh Sample.shelf ∧
      Sample.visit.Asks Sample.limits (.ok (.getNodes "bert"
        [.str "5F5E10000000000007000003", .str "5f5e10000000000007000004"])) ∧
      (respond Sample.limits ⟨1600000000000000⟩ ⟨Sample.shelf, ⟨7, 5⟩⟩ Sample.visit).2 =
        ⟨Sample.shelf, ⟨7, 5⟩⟩ ∧
      ∃ message, (respond Sample.limits ⟨1600000000000000⟩ ⟨Sample.shelf, ⟨7, 5⟩⟩
        Sample.visit).1.Carries 200 message
          (Reply.nodes [.metaNode Sample.record, .file Sample.track]).toJson := by
  obtain ⟨hworld, hreply, _⟩ := requests_run_operations (w := ⟨Sample.shelf, ⟨7, 5⟩⟩)
    Sample.shelf_reachable Sample.visit_asks ⟨1600000000000000⟩
  exact ⟨Sample.shelf_reachable, Sample.visit_asks, hworld,
    (hreply _ rfl).1 Sample.visit_reply_encodes⟩

namespace Sample

/-- A change of an account by a field whose name is half of a surrogate pair. -/
def scribble : Http.Request where
  method := "PATCH"
  path := "/api/v1/users/bert"
  payload := .json "\x7b\"\\ud800\": null\x7d"

theorem scribble_asks : scribble.Asks Sample.limits (.ok (.updateUser "bert"
    (.obj [(half, .null)]))) :=
  .updateUser (u := "bert") (by decide) rfl (.inl rfl) ⟨_, _, rfl, .inl rfl, by cbv⟩

end Sample

/-- The field is unknown, and the response that says so cannot be sent. -/
theorem rejection_breaks_on_unpaired_field :
    Reachable Call.Fresh Sample.shelf ∧
      Sample.scribble.Asks Sample.limits (.ok (.updateUser "bert" (.obj [(Sample.half, .null)]))) ∧
      (outcome Sample.limits ⟨1600000000000000⟩ ⟨Sample.shelf, ⟨7, 5⟩⟩
        (.ok (.updateUser "bert" (.obj [(Sample.half, .null)])))).1 =
          .error (.rejected (.unknownField Sample.half)) ∧
      (Rejection.unknownField Sample.half).status = 400 ∧
      (respond Sample.limits ⟨1600000000000000⟩ ⟨Sample.shelf, ⟨7, 5⟩⟩
        Sample.scribble).1.status = 500 := by
  refine ⟨Sample.shelf_reachable, Sample.scribble_asks, rfl, rfl, ?_⟩
  obtain ⟨endpoint, hanswer⟩ :=
    Sample.scribble_asks.answer_eq ⟨1600000000000000⟩ ⟨Sample.shelf, ⟨7, 5⟩⟩
  rw [respond_of_none hanswer]
  rfl

end FileShare

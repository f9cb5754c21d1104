import FileShare.Proofs.Http.Requests

/-! # Which answers are envelopes

A request that one of the own routes serves, path and method, is answered with an envelope: an
object with a message, data and a code, and the code is the status. That holds for replies, for
rejections, for bodies that cannot be read and, unless one debugs, for breakdowns. Any other request
never comes to the part that makes envelopes: preflights, pages, paths that differ from that of a
route by a slash, and paths and methods that are not known have answers of their own.
-/
namespace FileShare
namespace Http

/-! ## Routes that serve a request -/

def Route.Fits (route : Route) (path : List Char) : Prop := (fit? route.shape path).isSome

def Located (path : List Char) : Prop := ∃ route ∈ routes, route.Fits path

instance (path : List Char) : Decidable (Located path) :=
  inferInstanceAs (Decidable (∃ route ∈ routes, (fit? route.shape path).isSome))

namespace Request

/-- One of the own routes has the path and the method of the request. -/
def Served (r : Request) : Prop :=
  ∃ route ∈ ownRoutes, route.method = r.method ∧ route.Fits (unescapePath r.path)

/-- The page has the path of the request, and the request is to fetch. -/
def Fetches (r : Request) (p : Page) : Prop :=
  ∃ route ∈ pageRoutes, route.method = r.method ∧ route.Fits (unescapePath r.path) ∧
    route.endpoint = .page p

structure IsPreflight (r : Request) (planned : String) : Prop where
  method : r.method = "OPTIONS"
  origin : r.origin.isSome
  plan : r.plannedMethod = some planned

/-- What is answered to requests that no own route serves. -/
inductive Diverted (r : Request) : Response → Prop
  | granted {planned : String} (preflight : r.IsPreflight planned)
      (shared : planned ∈ sharedMethods) : Diverted r { status := 200, content := .text "OK" }
  | denied {planned : String} (preflight : r.IsPreflight planned)
      (other : planned ∉ sharedMethods) :
      Diverted r { status := 400, content := .text "Disallowed CORS method" }
  | page {p : Page} (fetches : r.Fetches p) : Diverted r { status := 200, content := .page p }
  | otherMethod (sent : ∀ planned, ¬ r.IsPreflight planned)
      (located : Located (unescapePath r.path)) (unfetched : ∀ p, ¬ r.Fetches p) :
      Diverted r (plain 405 "Method Not Allowed")
  | redirect (sent : ∀ planned, ¬ r.IsPreflight planned)
      (lost : ¬ Located (unescapePath r.path)) (below : unescapePath r.path ≠ ['/'])
      (found : Located (otherSpelling (unescapePath r.path))) :
      Diverted r { status := 307,
                   content := .pointer (String.ofList (otherSpelling (unescapePath r.path))) }
  | unknown (sent : ∀ planned, ¬ r.IsPreflight planned)
      (lost : ¬ Located (unescapePath r.path))
      (nowhere : unescapePath r.path = ['/'] ∨ ¬ Located (otherSpelling (unescapePath r.path))) :
      Diverted r (plain 404 "Not Found")

/-- No layer within answers the request. -/
def Breaks (limits : Settings) (now : Instant) (w : World) (r : Request) : Prop :=
  (answer limits now w r).1 = none

end Request

theorem route_eq_unknown_iff {method : String} {path : List Char} :
    route method path = .unknown ↔ ¬ Located path := by
  have htells := route_tells method path
  constructor
  · intro h
    rw [h] at htells
    rintro ⟨route, hroute, hfits⟩
    simp [Route.Fits, htells route hroute] at hfits
  · intro h
    cases hroute : route method path with
    | unknown => rfl
    | otherMethod =>
      rw [hroute] at htells
      exact absurd htells.1 h
    | found endpoint texts =>
      rw [hroute] at htells
      obtain ⟨route, hmem, _, _, hfit⟩ := htells
      exact absurd ⟨route, hmem, by simp [Route.Fits, hfit]⟩ h

theorem redirect?_eq {method : String} {path : List Char} : redirect? method path =
    if path ≠ ['/'] ∧ Located (otherSpelling path) then some (otherSpelling path) else none := by
  simp only [redirect?, ne_eq, route_eq_unknown_iff, not_not]

theorem not_fits_own {path : List Char} {route own : Route} (hroute : route ∈ pageRoutes)
    (hfits : route.Fits path) (hown : own ∈ ownRoutes) : ¬ own.Fits path := by
  obtain ⟨page, hpage, hshape⟩ := shape_of_page route hroute
  have hother : ∀ page ∈ pagePaths.map Prod.fst, ∀ own ∈ ownRoutes,
      (fit? own.shape page.toList).isSome = false ∧
        (fit? own.shape (page.toList ++ ['\n'])).isSome = false := by decide
  rw [Route.Fits, hshape, isSome_fit?_fixed] at hfits
  rw [Route.Fits, Bool.not_eq_true]
  rcases hfits with rfl | rfl
  · exact (hother page hpage own hown).1
  · exact (hother page hpage own hown).2

theorem endpoint_of_pageRoutes : ∀ route ∈ pageRoutes, ∃ p, route.endpoint = .page p := by
  intro route hroute
  obtain ⟨⟨path, p⟩, _, hroute⟩ := List.mem_flatMap.mp hroute
  obtain ⟨method, _, rfl⟩ := List.mem_map.mp hroute
  exact ⟨p, rfl⟩

theorem endpoint_of_ownRoutes : ∀ route ∈ ownRoutes, ∀ p, route.endpoint ≠ .page p := by
  simp [ownRoutes]

namespace Request
variable {r : Request} {endpoint : Endpoint} {texts : List String} {p : Page}

theorem Served.method_ne (h : r.Served) : r.method ≠ "OPTIONS" := by
  obtain ⟨route, hroute, hmethod, _⟩ := h
  exact hmethod ▸ method_of_routes route (List.mem_append_right _ hroute)

theorem Fetches.not_served (h : r.Fetches p) : ¬ r.Served := by
  obtain ⟨route, hroute, _, hfits, _⟩ := h
  rintro ⟨own, hown, _, hfits'⟩
  exact not_fits_own hroute hfits hown hfits'

theorem served_of_found (h : route r.method (unescapePath r.path) = .found endpoint texts)
    (hown : ∀ p, endpoint ≠ .page p) : r.Served := by
  have htells := route_tells r.method (unescapePath r.path)
  rw [h] at htells
  obtain ⟨route, hroute, hmethod, rfl, hfit⟩ := htells
  rcases List.mem_append.mp hroute with hpage | hroute
  · obtain ⟨p, hp⟩ := endpoint_of_pageRoutes route hpage
    exact absurd hp (hown p)
  · exact ⟨route, hroute, hmethod, by simp [Route.Fits, hfit]⟩

theorem fetches_of_found (h : route r.method (unescapePath r.path) = .found (.page p) texts) :
    r.Fetches p := by
  have htells := route_tells r.method (unescapePath r.path)
  rw [h] at htells
  obtain ⟨route, hroute, hmethod, hendpoint, hfit⟩ := htells
  rcases List.mem_append.mp hroute with hpage | hroute
  · exact ⟨route, hpage, hmethod, by simp [Route.Fits, hfit], hendpoint⟩
  · exact absurd hendpoint (endpoint_of_ownRoutes route hroute p)

theorem of_otherMethod (h : route r.method (unescapePath r.path) = .otherMethod) :
    Located (unescapePath r.path) ∧ ¬ r.Served ∧ ∀ p, ¬ r.Fetches p := by
  have htells := route_tells r.method (unescapePath r.path)
  rw [h] at htells
  refine ⟨htells.1, ?_, ?_⟩
  · rintro ⟨route, hroute, hmethod, hfits⟩
    simp [Route.Fits, htells.2 route (List.mem_append_right _ hroute) hmethod] at hfits
  · rintro p ⟨route, hroute, hmethod, hfits, _⟩
    simp [Route.Fits, htells.2 route (List.mem_append_left _ hroute) hmethod] at hfits

theorem Served.located (h : r.Served) : Located (unescapePath r.path) := by
  obtain ⟨route, hroute, _, hfits⟩ := h
  exact ⟨route, List.mem_append_right _ hroute, hfits⟩

theorem not_isPreflight (h : preflight? r = none) : ∀ planned, ¬ r.IsPreflight planned := by
  rintro planned ⟨method, origin, plan⟩
  obtain ⟨site, horigin⟩ := Option.isSome_iff_exists.mp origin
  unfold preflight? at h
  simp only [horigin, plan, method, ne_eq, not_true_eq_false, if_false] at h
  split at h <;> cases h

theorem diverted_of_preflight {response : Response} (h : preflight? r = some response) :
    r.method = "OPTIONS" ∧ r.Diverted response ∧ response.content.canSend := by
  unfold preflight? at h
  split at h
  · rename_i origin planned horigin hplanned
    split at h
    · cases h
    · rename_i hmethod
      have preflight : r.IsPreflight planned := ⟨not_not.mp hmethod, by simp [horigin], hplanned⟩
      split at h <;> cases h
      · exact ⟨preflight.method, .granted preflight ‹_›, rfl⟩
      · exact ⟨preflight.method, .denied preflight ‹_›, rfl⟩
  · cases h

end Request

/-! ## How a request is dealt with -/

/-- All that can come of a request. -/
inductive Dealt (limits : Settings) (now : Instant) (w : World) (r : Request) :
    Option Response → World → Prop
  | unknown (routed : route r.method (unescapePath r.path) = .unknown) :
      Dealt limits now w r (some (astray r.method (unescapePath r.path))) w
  | otherMethod (routed : route r.method (unescapePath r.path) = .otherMethod) :
      Dealt limits now w r (some (plain 405 "Method Not Allowed")) w
  | page {p : Page} {texts : List String}
      (routed : route r.method (unescapePath r.path) = .found (.page p) texts) :
      Dealt limits now w r (some { status := 200, content := .page p }) w
  | health {texts : List String}
      (routed : route r.method (unescapePath r.path) = .found .health texts) :
      Dealt limits now w r (some (success "OK" (.obj [("status", .str "healthy")]))) w
  | unreadable {endpoint : Endpoint} {texts : List String} {response : Response}
      (routed : route r.method (unescapePath r.path) = .found endpoint texts)
      (own : ∀ p, endpoint ≠ .page p) (unread : readBody r.payload = .error response) :
      Dealt limits now w r (some response) w
  | refused {endpoint : Endpoint} {texts : List String} {body : Option Json} {e : Failure}
      (led : r.LeadsTo endpoint texts body)
      (asked : operation? endpoint texts r.query body = .error e) :
      Dealt limits now w r (ofFailure e) w
  | misshapen {endpoint : Endpoint} {texts : List String} {body : Option Json}
      (led : r.LeadsTo endpoint texts body)
      (asked : operation? endpoint texts r.query body = .ok none) :
      Dealt limits now w r (notAnObject body) w
  | run {endpoint : Endpoint} {texts : List String} {body : Option Json} {op : Operation}
      (led : r.LeadsTo endpoint texts body)
      (asked : operation? endpoint texts r.query body = .ok (some op)) :
      Dealt limits now w r (ofResult endpoint (op.run limits now w).1) (op.run limits now w).2

section Dispatch
variable (limits : Settings) (now : Instant) (w : World) (r : Request)

theorem serve_dealt {endpoint : Endpoint} {texts : List String} {body : Option Json}
    (led : r.LeadsTo endpoint texts body) :
    Dealt limits now w r (serve limits now w endpoint texts r.query body).1
      (serve limits now w endpoint texts r.query body).2 := by
  unfold serve
  split
  · exact .refused led ‹_›
  · exact .misshapen led ‹_›
  · exact .run led ‹_›

theorem dispatch_dealt :
    Dealt limits now w r (dispatch limits now w r).1 (dispatch limits now w r).2 := by
  unfold dispatch
  split
  · exact .unknown ‹_›
  · exact .otherMethod ‹_›
  · exact .page ‹_›
  · exact .health ‹_›
  · rename_i endpoint texts hown hother hrouted
    split
    · rename_i hneeds
      split
      · exact .unreadable hrouted hown ‹_›
      · rename_i body hbody
        exact serve_dealt limits now w r ⟨hrouted, hother, hown, by rwa [if_pos hneeds]⟩
    · rename_i hneeds
      exact serve_dealt limits now w r ⟨hrouted, hother, hown, by rw [if_neg hneeds]⟩

end Dispatch

/-! ## Envelopes -/

/-- The body is an object with a message, data and a code, and the code is the status. -/
def Response.IsEnvelope (response : Response) : Prop :=
  ∃ message data, response.content =
    .json (.obj [("msg", .ofText message), ("data", data), ("code", .int response.status)])

theorem envelope_isEnvelope (code : Nat) (message : RawText) (data : Json) :
    (envelope code message data).IsEnvelope := ⟨message, data, rfl⟩

theorem plain_not_isEnvelope (status : Nat) (detail : String) :
    ¬ (plain status detail).IsEnvelope := by
  rintro ⟨message, data, hbody⟩
  simp [plain] at hbody

section Answered
variable {response : Response}

theorem ofFailure_isEnvelope {e : Failure} (h : ofFailure e = some response) :
    response.IsEnvelope := by
  cases e with
  | rejected cause =>
    cases h
    exact envelope_isEnvelope _ _ _
  | broken => cases h

theorem notAnObject_isEnvelope {input : Option Json} (h : notAnObject input = some response) :
    response.IsEnvelope := by
  obtain ⟨v, _, rfl⟩ := Option.map_eq_some_iff.mp h
  exact envelope_isEnvelope _ _ _

theorem readBody_isEnvelope {payload : Payload} (h : readBody payload = .error response) :
    response.IsEnvelope := by
  unfold readBody at h
  split at h
  · cases h
    exact envelope_isEnvelope _ _ _
  · cases h
    exact envelope_isEnvelope _ _ _
  · dsimp only at h
    split at h <;> cases h <;> exact envelope_isEnvelope _ _ _
  · cases h
    exact envelope_isEnvelope _ _ _
  · cases h

theorem ofResult_isEnvelope {endpoint : Endpoint} {result : Except Failure Reply}
    (h : ofResult endpoint result = some response) : response.IsEnvelope := by
  unfold ofResult at h
  split at h
  · exact ofFailure_isEnvelope h
  · cases h
    exact envelope_isEnvelope _ _ _
  · cases h
    exact envelope_isEnvelope _ _ _
  · obtain ⟨shown, _, rfl⟩ := Option.map_eq_some_iff.mp h
    exact envelope_isEnvelope _ _ _

theorem Request.Diverted.not_isEnvelope {r : Request} (h : r.Diverted response) :
    ¬ response.IsEnvelope := by
  cases h with
  | otherMethod | unknown => exact plain_not_isEnvelope _ _
  | granted | denied | page | redirect => rintro ⟨_, _, ⟨⟩⟩

end Answered

section Dealing
variable {limits : Settings} {now : Instant} {w w' : World} {r : Request}

theorem diverted_of_unknown (sent : preflight? r = none)
    (routed : route r.method (unescapePath r.path) = .unknown) :
    r.Diverted (astray r.method (unescapePath r.path)) := by
  have hsent := Request.not_isPreflight sent
  have hlost := route_eq_unknown_iff.mp routed
  rw [astray, redirect?_eq]
  by_cases hfound : unescapePath r.path ≠ ['/'] ∧ Located (otherSpelling (unescapePath r.path))
  · rw [if_pos hfound]
    exact .redirect hsent hlost hfound.1 hfound.2
  · rw [if_neg hfound]
    exact .unknown hsent hlost (by rwa [not_and_or, not_not] at hfound)

theorem canSend_astray (method : String) (path : List Char) :
    (astray method path).content.canSend := by
  unfold astray
  split <;> simp [plain, Content.canSend]

/-- What an own route serves can only be answered with an envelope, and the rest has answers of its
own. -/
theorem Dealt.envelope_or_diverted {response? : Option Response}
    (h : Dealt limits now w r response? w') (sent : preflight? r = none) :
    r.Served ∧ (∀ response, response? = some response → response.IsEnvelope) ∨
      ¬ r.Served ∧ w' = w ∧
        ∃ response, response? = some response ∧ response.content.canSend ∧ r.Diverted response := by
  cases h with
  | unknown routed =>
    refine .inr ⟨fun hserved => route_eq_unknown_iff.mp routed hserved.located, rfl, _, rfl,
      canSend_astray _ _, diverted_of_unknown sent routed⟩
  | otherMethod routed =>
    obtain ⟨hlocated, hserved, hfetches⟩ := Request.of_otherMethod routed
    exact .inr ⟨hserved, rfl, _, rfl, rfl,
      .otherMethod (Request.not_isPreflight sent) hlocated hfetches⟩
  | page routed =>
    have hfetches := Request.fetches_of_found routed
    exact .inr ⟨hfetches.not_served, rfl, _, rfl, rfl, .page hfetches⟩
  | health routed =>
    refine .inl ⟨Request.served_of_found routed nofun, ?_⟩
    rintro _ ⟨⟩
    exact envelope_isEnvelope _ _ _
  | unreadable routed own unread =>
    refine .inl ⟨Request.served_of_found routed own, ?_⟩
    rintro _ ⟨⟩
    exact readBody_isEnvelope unread
  | refused led =>
    exact .inl ⟨Request.served_of_found led.routed led.own, fun _ => ofFailure_isEnvelope⟩
  | misshapen led =>
    exact .inl ⟨Request.served_of_found led.routed led.own, fun _ => notAnObject_isEnvelope⟩
  | run led =>
    exact .inl ⟨Request.served_of_found led.routed led.own, fun _ => ofResult_isEnvelope⟩

theorem canSend_internalError (debug : Bool) : (internalError debug).content.canSend := by
  cases debug <;> rfl

theorem canSend_respond (limits : Settings) (now : Instant) (w : World) (r : Request) :
    (respond limits now w r).1.content.canSend := by
  cases hpreflight : preflight? r with
  | some response =>
    obtain ⟨_, _, hsend⟩ := Request.diverted_of_preflight hpreflight
    rw [respond_of_some (by rw [answer, hpreflight])]
    exact hsend
  | none =>
    cases hdispatch : ((dispatch limits now w r).1.filter fun response =>
        response.content.canSend) with
    | none =>
      rw [respond_of_none (by rw [answer_eq hpreflight, hdispatch])]
      exact canSend_internalError _
    | some response =>
      rw [respond_of_some (by rw [answer_eq hpreflight, hdispatch])]
      exact (Option.filter_eq_some_iff.mp hdispatch).2

theorem Request.Served.isEnvelope (h : r.Served) {response : Response}
    (hanswer : (answer limits now w r).1 = some response) : response.IsEnvelope := by
  have hpreflight := preflight?_eq_none h.method_ne
  rw [answer_eq hpreflight] at hanswer
  obtain ⟨_, henvelope⟩ | ⟨hother, _⟩ :=
    (dispatch_dealt limits now w r).envelope_or_diverted hpreflight
  · exact henvelope response (Option.filter_eq_some_iff.mp hanswer).1
  · exact absurd h hother

theorem Request.exists_diverted (limits : Settings) (now : Instant) (w : World) (h : ¬ r.Served) :
    ∃ response, r.Diverted response ∧ answer limits now w r = (some response, w) := by
  cases hpreflight : preflight? r with
  | some response =>
    obtain ⟨_, hdiverted, _⟩ := Request.diverted_of_preflight hpreflight
    exact ⟨response, hdiverted, by rw [answer, hpreflight]⟩
  | none =>
    obtain ⟨hserved, _⟩ | ⟨_, hkept, response, hresponse, hsend, hdiverted⟩ :=
      (dispatch_dealt limits now w r).envelope_or_diverted hpreflight
    · exact absurd hserved h
    · refine ⟨response, hdiverted, ?_⟩
      rw [answer_eq hpreflight, hresponse, hkept, Option.filter_some, if_pos hsend]

end Dealing
end Http

open Http

/-- A request that one of the own routes serves is answered with an envelope, unless it breaks down
while one debugs; then the answer tells how it came about. No other request is answered with an
envelope, and none changes anything: preflights, pages, other spellings of paths, other methods and
unknown paths have answers of their own. There is a text of every answer. -/
theorem served_requests_get_envelopes (limits : Settings) (now : Instant) (w : World)
    (r : Http.Request) :
    (r.Served →
      ((respond limits now w r).1.IsEnvelope ↔ ¬ (limits.debug ∧ r.Breaks limits now w)) ∧
      (limits.debug → r.Breaks limits now w →
        (respond limits now w r).1 = { status := 500, content := .traceback })) ∧
      (¬ r.Served → ¬ (respond limits now w r).1.IsEnvelope ∧ (respond limits now w r).2 = w ∧
        ∃ response, r.Diverted response ∧ (respond limits now w r).1 =
          { response with requestId := r.requestId.filter (· ≠ "") }) ∧
      (respond limits now w r).1.content.canSend := by
  refine ⟨fun hserved => ?_, fun hserved => ?_, canSend_respond limits now w r⟩
  · rw [Request.Breaks]
    cases hanswer : (answer limits now w r).1 with
    | some response =>
      have henvelope := hserved.isEnvelope hanswer
      rw [respond_of_some (Prod.ext hanswer rfl)]
      exact ⟨iff_of_true henvelope (by simp), fun _ => nofun⟩
    | none =>
      rw [respond_of_none (Prod.ext hanswer rfl)]
      cases limits.debug with
      | false => exact ⟨iff_of_true (envelope_isEnvelope _ _ _) (by simp), nofun⟩
      | true => exact ⟨iff_of_false (by rintro ⟨_, _, ⟨⟩⟩) (by simp), fun _ _ => rfl⟩
  · obtain ⟨response, hdiverted, hanswer⟩ := Request.exists_diverted limits now w hserved
    rw [respond_of_some hanswer]
    exact ⟨hdiverted.not_isEnvelope, rfl, response, hdiverted, rfl⟩

namespace Sample

def sweep : Http.Request := { method := "DELETE", path := "/api/v1/users" }

def astray : Http.Request := { method := "GET", path := "/nope" }

end Sample

theorem served_requests_get_envelopes_sample :
    Sample.visit.Served ∧ (respond {} ⟨0⟩ ⟨Sample.shelf, ⟨7, 5⟩⟩ Sample.visit).1.IsEnvelope ∧
      (respond {} ⟨0⟩ ⟨Sample.shelf, ⟨7, 5⟩⟩ Sample.visit).1.content.canSend ∧
      ¬ Sample.sweep.Served ∧
      ¬ (respond {} ⟨0⟩ ⟨Sample.shelf, ⟨7, 5⟩⟩ Sample.sweep).1.IsEnvelope ∧
      (respond {} ⟨0⟩ ⟨Sample.shelf, ⟨7, 5⟩⟩ Sample.sweep).2 = ⟨Sample.shelf, ⟨7, 5⟩⟩ := by
  have hserved : Sample.visit.Served := Request.served_of_found (r := Sample.visit) rfl nofun
  have hother : ¬ Sample.sweep.Served := (Request.of_otherMethod (r := Sample.sweep) rfl).2.1
  obtain ⟨hvisit, _, htext⟩ :=
    served_requests_get_envelopes {} ⟨0⟩ ⟨Sample.shelf, ⟨7, 5⟩⟩ Sample.visit
  obtain ⟨_, hsweep, _⟩ :=
    served_requests_get_envelopes {} ⟨0⟩ ⟨Sample.shelf, ⟨7, 5⟩⟩ Sample.sweep
  obtain ⟨hbare, hkept, _⟩ := hsweep hother
  exact ⟨hserved, (hvisit hserved).1.mpr (by simp), htext, hother, hbare, hkept⟩

/-- The answer to a path that is not known has neither a message nor a code. -/
theorem unknown_path_gets_no_envelope :
    (respond {} ⟨1600000000000000⟩ ⟨{}, ⟨7, 1⟩⟩ Sample.astray).1.status = 404 ∧
      ¬ (respond {} ⟨1600000000000000⟩ ⟨{}, ⟨7, 1⟩⟩ Sample.astray).1.IsEnvelope := by
  have hbare : (respond {} ⟨1600000000000000⟩ ⟨{}, ⟨7, 1⟩⟩ Sample.astray).1 =
      plain 404 "Not Found" := rfl
  rw [hbare]
  exact ⟨rfl, plain_not_isEnvelope 404 "Not Found"⟩

end FileShare

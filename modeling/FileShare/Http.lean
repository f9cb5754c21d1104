import FileShare.Http.EscapedPath
import FileShare.Http.Route
import FileShare.Operation

/-! # Requests and responses

A request is routed to an operation, and the reply or the failure becomes a response: an envelope of
a message, data and a code. Around that stand the answers of the layers below, for unknown routes
and pages, and those of the layers above, for preflights and for requests that broke down.
-/
namespace FileShare.Http

/-- What a request brings along. Bytes that it calls JSON may be no text, and other bytes are not
read. -/
inductive Payload where
  | none
  | json (text : RawText)
  | undecodable
  | bytes
deriving Repr

structure Request where
  method : String
  path : String
  query : Entries String := []
  payload : Payload := .none
  requestId : Option String := none
  origin : Option String := none
  /-- The method that a preflight asks about. -/
  plannedMethod : Option String := none
deriving Repr

inductive Content where
  | json (v : Json)
  | text (s : String)
  | page (p : Page)
  /-- Nothing but the path to ask for instead. -/
  | pointer (path : String)
  | traceback
deriving Repr

structure Response where
  status : Nat
  content : Content
  requestId : Option String := none
deriving Repr

def envelope (status : Nat) (message : RawText) (data : Json) : Response where
  status := status
  content := .json (.obj [("msg", .ofText message), ("data", data), ("code", .int status)])

def success (message : String) (data : Json) : Response := envelope 200 message data

/-- Answers outside the application's own routes. -/
def plain (status : Nat) (detail : String) : Response where
  status := status
  content := .json (.obj [("detail", .str detail)])

/-- The answer to a request that breaks down. Who debugs is shown how it came about. -/
def internalError (debug : Bool) : Response :=
  if debug then { status := 500, content := .traceback } else envelope 500 "服务器内部错误" .null

/-- A breakdown is not answered here. -/
def ofFailure : Failure → Option Response
  | .rejected cause => some (envelope cause.status cause.message cause.data)
  | .broken _ => none

/-! ## Texts of responses -/

mutual

/-- A value has a UTF-8 text if all texts in it have one and all numbers in it are finite. -/
def canSend : Json → Bool
  | .num n => n.isFinite
  | .unpaired .. => false
  | .arr items => canSendAll items
  | .obj entries => canSendEntries entries
  | _ => true

def canSendAll : List Json → Bool
  | [] => true
  | v :: more => canSend v && canSendAll more

def canSendEntries : List (RawText × Json) → Bool
  | [] => true
  | (name, v) :: more => name.utf8?.isSome && canSend v && canSendEntries more

end

def Content.canSend : Content → Bool
  | .json v => Http.canSend v
  | _ => true

/-! ## Bodies -/

def invalidRequest (detail : Json.Object) : Response :=
  envelope 422 "请求参数验证失败" (.arr [.obj detail])

def missingBody : Response := invalidRequest [
  ("type", .str "missing"), ("loc", .strings ["body"]), ("msg", .str "Field required"),
  ("input", .null)]

def malformedBody (offset : Nat) (fault : Json.Fault) : Response := invalidRequest [
  ("type", .str "json_invalid"),
  ("loc", .arr [.str "body", .int offset]),
  ("msg", .str "JSON decode error"),
  ("input", .obj []),
  ("ctx", .obj [("error", .str fault.message)])]

/-- The response to a body of the wrong shape repeats it; bytes cannot be repeated. -/
def notAnObject (input : Option Json) : Option Response :=
  input.map fun v => invalidRequest [
    ("type", .str "model_attributes_type"),
    ("loc", .strings ["body"]),
    ("msg", .str "Input should be a valid dictionary or object to extract fields from"),
    ("input", v)]

def unparsableBody : Response := envelope 400 "There was an error parsing the body" .null

/-- The body of a request as a value, or the response to a request without a good one. A byte
order mark at the start of a body is not part of it. Bytes that are not read are no value. -/
def readBody : Payload → Except Response (Option Json)
  | .none => .error missingBody
  | .json (.text "") => .error missingBody
  | .json text =>
    let points := match text.points with
      | .char '\ufeff' :: rest => rest
      | all => all
    match Json.readText points with
    | .ok v => .ok (some v)
    | .error (.malformed fault remaining) =>
      .error (malformedBody (points.length - remaining) fault)
    | .error .integerTooLong => .error unparsableBody
  | .undecodable => .error unparsableBody
  | .bytes => .ok none

/-! ## Nodes in responses -/

/-- A lock shows with the three fields of a lock; a lock without them cannot be shown. -/
def shownLock? : Json → Option Json
  | .null => some .null
  | .obj entries =>
    match Json.Object.get entries "user", Json.Object.get entries "client",
      Json.Object.get entries "createdAt" with
    | .str user, .str client, .num time =>
      some (.obj [("user", .str user), ("client", .str client), ("createdAt", .num time)])
    | _, _, _ => none
  | _ => none

def hasKnownLevels (n : Node) : Bool :=
  n.permissions.all fun g => g.2 ∈ Matcher.permissionLevels

/-- A node as a response shows it. Only nodes of the known kinds and levels can be shown. -/
def shownNode? (n : Node) : Option Json :=
  if !hasKnownLevels n then none
  else
    match n with
    | .file f => (shownLock? f.lock).map fun lock => (Node.file { f with lock }).toJson
    | .metaNode m => if m.kind ∈ ["directory", symlinkKind] then some n.toJson else none

def shownReply? : Reply → Option Json
  | .node n => shownNode? n
  | .nodes ns => (ns.mapM shownNode?).map .arr
  | reply => some reply.toJson

/-! ## Endpoints -/

/-- The value of a parameter. Of several the last one counts. -/
def parameter? (query : Entries String) (name : String) : Option String :=
  Entries.get? query.reverse name

/-- What an endpoint asks for. Search reads the texts of its matchers first. An operation takes
bytes as it takes any value but an object. -/
def operation? (endpoint : Endpoint) (texts : List String) (query : Entries String)
    (body : Option Json) : Except Failure (Option Operation) :=
  let cursor : Json := Json.ofOption .str (parameter? query "after")
  let ids (raw : String) : List Json := (splitIds raw).map .str
  let value : Json := body.getD .null
  match endpoint, texts with
  | .listUsers, [] => .ok (some (.listUsers cursor))
  | .createUser, [] => .ok (some (.createUser value))
  | .getUser, [u] => .ok (some (.getUser u))
  | .updateUser, [u] => .ok (some (.updateUser u value))
  | .deleteUser, [u] => .ok (some (.deleteUser u))
  | .authenticate, [u] =>
    match body with
    | some (.obj entries) => .ok (some (.authenticate u (Json.Object.get entries "key")))
    | _ => .ok none
  | .searchNodes, [u] => do
    let equality ← Matcher.readText "match" (parameter? query "match")
    let patterns ← Matcher.readText "regexMatch" (parameter? query "regexMatch")
    return some (.searchNodes u cursor equality patterns)
  | .createNode, [u] => .ok (some (.createNode u value))
  | .getNodes, [u, raw] => .ok (some (.getNodes u (ids raw)))
  | .updateNode, [u, id] => .ok (some (.updateNode u (.str id) value))
  | .deleteNodes, [u, raw] => .ok (some (.deleteNodes u (ids raw)))
  | _, _ => .ok none

def needsBody : Endpoint → Bool
  | .createUser | .updateUser | .authenticate | .createNode | .updateNode => true
  | _ => false

def successMessage : Endpoint → String
  | .page _ => ""
  | .health => "OK"
  | .listUsers => "获取用户列表成功"
  | .createUser => "用户创建成功"
  | .getUser => "获取用户成功"
  | .updateUser => "用户更新成功"
  | .deleteUser => "用户删除成功"
  | .authenticate => "认证成功"
  | .searchNodes => "检索节点成功"
  | .createNode => "节点创建成功"
  | .getNodes => "获取节点成功"
  | .updateNode => "节点更新成功"
  | .deleteNodes => "节点删除成功"

def ofResult (endpoint : Endpoint) : Except Failure Reply → Option Response
  | .error e => ofFailure e
  | .ok (.answer true) => some (success (successMessage endpoint) .null)
  | .ok (.answer false) => some (envelope 403 "认证失败" .null)
  | .ok reply => (shownReply? reply).map (success (successMessage endpoint))

/-! ## Layers -/

/-- Runs the operation that an endpoint asks for. A request that breaks down has no response yet. -/
def serve (limits : Settings) (now : Instant) (w : World) (endpoint : Endpoint)
    (texts : List String) (query : Entries String) (body : Option Json) :
    Option Response × World :=
  match operation? endpoint texts query body with
  | .error e => (ofFailure e, w)
  | .ok none => (notAnObject body, w)
  | .ok (some op) =>
    let (result, w') := op.run limits now w
    (ofResult endpoint result, w')

/-- The response to a path that no route has. -/
def astray (method : String) (path : List Char) : Response :=
  match redirect? method path with
  | some other => { status := 307, content := .pointer (String.ofList other) }
  | none => plain 404 "Not Found"

def dispatch (limits : Settings) (now : Instant) (w : World) (r : Request) :
    Option Response × World :=
  match route r.method (unescapePath r.path) with
  | .unknown => (some (astray r.method (unescapePath r.path)), w)
  | .otherMethod => (some (plain 405 "Method Not Allowed"), w)
  | .found (.page p) _ => (some { status := 200, content := .page p }, w)
  | .found .health _ =>
    (some (success (successMessage .health) (.obj [("status", .str "healthy")])), w)
  | .found endpoint texts =>
    if needsBody endpoint then
      match readBody r.payload with
      | .error response => (some response, w)
      | .ok body => serve limits now w endpoint texts r.query body
    else serve limits now w endpoint texts r.query none

def sharedMethods : List String := ["DELETE", "GET", "HEAD", "OPTIONS", "PATCH", "POST", "PUT"]

/-- The answer to a preflight, in which a browser asks whether a page of another origin may send a
request. -/
def preflight? (r : Request) : Option Response :=
  match r.origin, r.plannedMethod with
  | some _, some planned =>
    if r.method ≠ "OPTIONS" then none
    else if planned ∈ sharedMethods then some { status := 200, content := .text "OK" }
    else some { status := 400, content := .text "Disallowed CORS method" }
  | _, _ => none

/-- What the layers within answer. A response that has no UTF-8 text breaks the request down. -/
def answer (limits : Settings) (now : Instant) (w : World) (r : Request) :
    Option Response × World :=
  match preflight? r with
  | some response => (some response, w)
  | none =>
    let (response?, w') := dispatch limits now w r
    (response?.filter fun response => response.content.canSend, w')

/-- Answers a request. The response carries the request's identifier, unless the request broke
down: such a response is made outside the layer that adds it. An empty identifier counts as none. -/
def respond (limits : Settings) (now : Instant) (w : World) (r : Request) : Response × World :=
  match answer limits now w r with
  | (some response, w') => ({ response with requestId := r.requestId.filter (· ≠ "") }, w')
  | (none, w') => (internalError limits.debug, w')

end FileShare.Http

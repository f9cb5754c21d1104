import FileShare.Text.Split

/-! # Routes

A route is a method and a shape of path. Shapes are tried in the order of the table; a path that
fits a shape whose method differs is known, but not for the method. The pages about the interface
come before all else.
-/
namespace FileShare.Http

inductive Part where
  | fixed (text : String)
  /-- One or more characters without a slash. -/
  | segment
  /-- All that is left of the line, perhaps nothing. -/
  | tail
deriving DecidableEq, Repr

/-- A path may end in a line break, which belongs to no part but a segment. -/
def atEnd (cs : List Char) : Bool := cs = [] || cs = ['\n']

def fit? : List Part → List Char → Option (List String)
  | [], cs => if atEnd cs then some [] else none
  | .fixed text :: parts, cs => (Text.after? text.toList cs).bind (fit? parts)
  | .segment :: parts, cs =>
    let here := cs.takeWhile (· ≠ '/')
    if here.isEmpty then none
    else (fit? parts (cs.dropWhile (· ≠ '/'))).map (String.ofList here :: ·)
  | .tail :: parts, cs =>
    (fit? parts (cs.dropWhile (· ≠ '\n'))).map (String.ofList (cs.takeWhile (· ≠ '\n')) :: ·)

inductive Page where
  | schema
  | docs
  | docsRedirect
  | reference
deriving DecidableEq, Repr

inductive Endpoint where
  | page (p : Page)
  | health
  | listUsers
  | createUser
  | getUser
  | updateUser
  | deleteUser
  | authenticate
  | searchNodes
  | createNode
  | getNodes
  | updateNode
  | deleteNodes
deriving DecidableEq, Repr

structure Route where
  method : String
  shape : List Part
  endpoint : Endpoint
deriving Repr

def usersPath : String := "/api/v1/users"

def nodesPath : String := "/api/v1/filesystem/"

def pagePaths : List (String × Page) := [
  ("/openapi.json", .schema), ("/docs", .docs), ("/docs/oauth2-redirect", .docsRedirect),
  ("/redoc", .reference)]

/-- Where a page can be fetched its headers can be, too. -/
def pageRoutes : List Route :=
  pagePaths.flatMap fun (path, p) => ["GET", "HEAD"].map fun method =>
    ⟨method, [.fixed path], .page p⟩

def ownRoutes : List Route := [
  ⟨"GET", [.fixed "/health"], .health⟩,
  ⟨"GET", [.fixed usersPath], .listUsers⟩,
  ⟨"POST", [.fixed usersPath], .createUser⟩,
  ⟨"GET", [.fixed usersPath, .fixed "/", .segment], .getUser⟩,
  ⟨"PATCH", [.fixed usersPath, .fixed "/", .segment], .updateUser⟩,
  ⟨"DELETE", [.fixed usersPath, .fixed "/", .segment], .deleteUser⟩,
  ⟨"POST", [.fixed usersPath, .fixed "/", .segment, .fixed "/auth"], .authenticate⟩,
  ⟨"GET", [.fixed nodesPath, .segment, .fixed "/search"], .searchNodes⟩,
  ⟨"POST", [.fixed nodesPath, .segment], .createNode⟩,
  ⟨"GET", [.fixed nodesPath, .segment, .fixed "/", .tail], .getNodes⟩,
  ⟨"PATCH", [.fixed nodesPath, .segment, .fixed "/", .segment], .updateNode⟩,
  ⟨"DELETE", [.fixed nodesPath, .segment, .fixed "/", .tail], .deleteNodes⟩]

def routes : List Route := pageRoutes ++ ownRoutes

inductive Routing where
  | found (endpoint : Endpoint) (texts : List String)
  | otherMethod
  | unknown
deriving DecidableEq, Repr

def routeIn (method : String) (path : List Char) : List Route → Routing
  | [] => .unknown
  | r :: rest =>
    match fit? r.shape path with
    | none => routeIn method path rest
    | some texts =>
      if r.method = method then .found r.endpoint texts
      else
        match routeIn method path rest with
        | .unknown => .otherMethod
        | routing => routing

def route (method : String) (path : List Char) : Routing := routeIn method path routes

/-- A path with a slash at its end, or without the slashes there. -/
def otherSpelling (path : List Char) : List Char :=
  if path.getLast? = some '/' then (path.reverse.dropWhile (· = '/')).reverse else path ++ ['/']

/-- Where a path that no route has leads: to its other spelling, if some route has that. -/
def redirect? (method : String) (path : List Char) : Option (List Char) :=
  if path ≠ ['/'] ∧ route method (otherSpelling path) ≠ .unknown then some (otherSpelling path)
  else none

/-- The identifiers in a path, parted by slashes of which repeated ones count once. -/
def splitIds (raw : String) : List String := (Text.split '/' raw).filter (· ≠ "")

end FileShare.Http

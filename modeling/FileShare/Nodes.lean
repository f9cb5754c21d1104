import FileShare.Accounts
import FileShare.Body
import FileShare.Query

/-! # Nodes: reading, search, creation, change, deletion

Every operation acts for a user. A node is visible to its owner and to everyone with a grant on it;
the owner and those with an edit grant may change it; only the owner may delete it.
-/
namespace FileShare.Nodes

def checkBatch (limits : Settings) (ids : List Json) : Except Failure Unit :=
  if limits.maxItemsPerRequest < ids.length then reject (.tooMany "node_ids") else .ok ()

/-! ## Reading -/

/-- All of the named nodes, newest first, or none of them. -/
def get (limits : Settings) (username : String) (ids : List Json) (s : Store) :
    Except Failure (List Node) := do
  checkBatch limits ids
  discard (Accounts.require s username)
  let wanted ← Identifier.parseAll (some "node_ids") ids
  let found ← Query.fetch s (Query.idPlan wanted username)
  if found.length = wanted.length then return found else reject (.someNotFound "node_ids")

/-- One page of the visible nodes that satisfy a matcher, newest first, below a cursor. -/
def search (limits : Settings) (username : String) (after equality patterns : Json) (s : Store) :
    Except Failure (List Node) := do
  let cursor ← Identifier.parseOptional (some "after") after
  let matcher ← Matcher.compile limits equality patterns
  if cursor.any fun id => !s.hasNode id then reject (.notFound after "node_id")
  else
    discard (Accounts.require s username)
    Query.fetch s (← Query.ofMatcher matcher username limits.resultsPerPage cursor)

/-! ## Creation -/

def ofBody (id owner : String) (now : Instant) : Body.NewNode String → Node
  | .file name text tags lock grants =>
    .file (FileNode.ofFields id owner now.milliseconds now.milliseconds name text
      (Matcher.normalizeTags tags) lock grants)
  | .metaNode kind name contents grants =>
    .metaNode (MetaNode.ofFields id kind owner now.milliseconds name contents grants)

/-- Stores a new node. The row of a file goes in before its tags do, so an identifier that is taken
is found before a tag that cannot be stored. -/
def insert (s : Store) (id owner : String) (now : Instant) (fields : Body.NewNode RawText) :
    Except Failure Store := do
  discard fields.name.encode
  match fields.encode with
  | .error e =>
    if s.files.any fun f => f.id = id then breakDown .identifierTaken else .error e
  | .ok row =>
    match s.addNode (ofBody id owner now row) with
    | none => breakDown .identifierTaken
    | some store => return store

/-- Stores a new node and reads it back as its owner sees it. -/
def create (limits : Settings) (now : Instant) (username : String) (body : Json) (w : World) :
    Except Failure Node × World :=
  let checked := do
    let fields ← Body.checkNew limits w.store body
    discard (Accounts.require w.store username)
    return fields
  match checked with
  | .error e => (.error e, w)
  | .ok fields =>
    let (id, generator) := w.generator.draw now
    match insert w.store id username now fields with
    | .error e => (.error e, { w with generator })
    | .ok store =>
      match get limits username [.str id] store with
      | .error e => (.error e, { store, generator })
      | .ok [] => (reject (.someNotFound "node_ids"), { store, generator })
      | .ok (n :: _) => (.ok n, { store, generator })

/-! ## Change -/

/-- Writes the fields that the patch holds. Any change is a modification of a file. -/
def applyToFile (now : Instant) (p : Body.Patch String) (f : FileNode) : FileNode :=
  let f := { f with owner := p.owner.getD f.owner }
  let f := match p.name with
    | some name => f.withName name
    | none => f
  let f := match p.permissions with
    | some grants => f.withPermissions grants
    | none => f
  let f := match p.text with
    | some text => f.withText text
    | none => f
  let f := match p.tags with
    | some tags => f.withTags (Matcher.normalizeTags tags)
    | none => f
  { f with lock := p.lock.getD f.lock, modifiedAt := now.milliseconds }

def applyToMeta (p : Body.Patch String) (m : MetaNode) : MetaNode :=
  let m := { m with owner := p.owner.getD m.owner }
  let m := match p.name with
    | some name => m.withName name
    | none => m
  let m := match p.permissions with
    | some grants => m.withPermissions grants
    | none => m
  { m with contents := p.contents.getD m.contents }

def applyPatch (now : Instant) (p : Body.Patch String) : Node → Node
  | .file f => .file (applyToFile now p f)
  | .metaNode m => .metaNode (applyToMeta p m)

def update (limits : Settings) (now : Instant) (username : String) (id body : Json) (s : Store) :
    Except Failure Store := do
  let target ← Identifier.parse (some "node_id") id
  if Accounts.isEmptyObject body then return s
  else
    discard (Accounts.require s username)
    match ← Query.fetch s (Query.editPlan target username) with
    | [] => reject (.notFound id "node_id")
    | node :: _ =>
      let patch ← (← Body.checkPatch limits s node.kind body).encode
      return s.replaceNode (applyPatch now patch node)

/-! ## Deletion -/

/-- Removes those of the named nodes that the user owns, and every reference to them. -/
def delete (limits : Settings) (username : String) (ids : List Json) (s : Store) :
    Except Failure Store := do
  checkBatch limits ids
  let named ← Identifier.parseAll (some "node_ids") ids
  discard (Accounts.require s username)
  return (s.removeOwned username named).pullFromContents (s.ownedAmong username named)

end FileShare.Nodes

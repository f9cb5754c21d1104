import FileShare.Fields
import FileShare.Identifier
import FileShare.Matcher.Compile
import FileShare.Store

/-! # Bodies of node requests

A new node needs all fields of its kind; a patch holds some of them and perhaps a new owner. Both
are checked field by field under the same rules, and the first fault is reported. What passes is
a typed value that the node services write without further checks.
-/
namespace FileShare.Body

/-- The fields of a new node, whose name and tags are texts of the given kind. -/
inductive NewNode (τ : Type) where
  | file (name : τ) (text : String) (tags : List τ) (lock : Json) (permissions : Entries String)
  | metaNode (kind : String) (name : τ) (contents : List String) (permissions : Entries String)
deriving Repr

structure Patch (τ : Type) where
  name : Option τ := none
  permissions : Option (Entries String) := none
  text : Option String := none
  tags : Option (List τ) := none
  lock : Option Json := none
  contents : Option (List String) := none
  owner : Option String := none
deriving Repr

/-- The fields with the texts that the store takes. -/
def NewNode.encode : NewNode RawText → Except Failure (NewNode String)
  | .file name text tags lock grants => do
    return .file (← name.encode) text (← tags.mapM RawText.encode) lock grants
  | .metaNode kind name contents grants => do
    return .metaNode kind (← name.encode) contents grants

def NewNode.name : NewNode τ → τ
  | .file name .. => name
  | .metaNode _ name .. => name

def encodeIfPresent (encode : α → Except Failure β) : Option α → Except Failure (Option β)
  | some a => some <$> encode a
  | none => .ok none

def Patch.encode (p : Patch RawText) : Except Failure (Patch String) := do
  let name ← encodeIfPresent RawText.encode p.name
  let tags ← encodeIfPresent (List.mapM RawText.encode) p.tags
  return { p with name, tags }

def nodeKinds : List String := [fileKind, "directory", symlinkKind]

def newFileFields : List RawText := ["type", "name", "text", "tags", "lock", "permissions"]

def newMetaFields : List RawText := ["type", "name", "contents", "permissions"]

def filePatchFields : List RawText := ["name", "text", "tags", "lock", "permissions", "owner"]

def metaPatchFields : List RawText := ["name", "contents", "permissions", "owner"]

def lockFields : List RawText := ["user", "client", "createdAt"]

/-! ## Fields -/

def boundedText (field : String) (least most : Int) (v : Json) : Except Failure RawText :=
  match v.text? with
  | some t =>
    if withinLimits least most t.length then .ok t
    else reject (.badLength field (.within least most) .text)
  | none => reject (.badLength field (.within least most) .text)

def checkName (limits : Settings) (v : Json) : Except Failure RawText :=
  boundedText "name" 1 limits.maxNameLength v

/-- Everyone may be granted to view a file, and nothing else. -/
def checkGrant (isFile : Bool) (grantee : RawText) : Json → Except Failure (RawText × String)
  | .str level =>
    if level ∉ Matcher.permissionLevels then reject (.badEntries "permissions")
    else if grantee = .text publicGrantee && !(isFile && level = "view") then
      reject (.badEntries "permissions")
    else .ok (grantee, level)
  | _ => reject (.badEntries "permissions")

/-- A grant whose grantee can be looked up. -/
def encodeGrant (g : RawText × String) : Except Failure (String × String) := do
  return (← g.1.encode, g.2)

def checkPermissions (limits : Settings) (s : Store) (isFile : Bool) :
    Json → Except Failure (Entries String)
  | .obj entries => do
    let given ← entries.mapM fun e => checkGrant isFile e.1 e.2
    if limits.maxPermissions < entries.length then reject (.tooMany "permissions")
    else
      let grants ← given.mapM encodeGrant
      let grantees := (Entries.names grants).filter (· ≠ publicGrantee)
      match s.firstUnknownUser? grantees with
      | some grantee => reject (.notFound (.str grantee) "user (permissions)")
      | none => return grants
  | _ => reject (.badField "permissions")

def checkText (limits : Settings) (v : Json) : Except Failure String :=
  let refusal : Rejection := .badLength "text" (.within 0 limits.maxTextBytes) .bytes
  match v.text? with
  | some t => do
    let s ← t.encode
    if (s.utf8ByteSize : Int) ≤ limits.maxTextBytes then return s else reject refusal
  | none => reject refusal

def checkTags (limits : Settings) : Json → Except Failure (List RawText)
  | .arr items =>
    if limits.maxTags < items.length then reject (.tooMany "tags")
    else items.mapM (boundedText "tags" 1 limits.maxTagLength)
  | _ => reject (.badField "tags")

def checkLockUser (limits : Settings) (v : Json) : Except Failure Unit :=
  let refusal : Rejection :=
    .badLength "lock.user" (.within limits.minUsernameLength limits.maxUsernameLength) .text
  match v with
  | .str s => if Username.isShaped limits s then .ok () else reject refusal
  | _ => reject refusal

def checkLockTime (v : Json) : Except Failure Unit :=
  match Matcher.finiteNumber? v with
  | some n => if n.isPositive then .ok () else reject (.badField "lock.createdAt")
  | none => reject (.badField "lock.createdAt")

/-- Null, or an object with a user, a client and a time and no other field. -/
def checkLock (limits : Settings) : Json → Except Failure Json
  | .null => .ok .null
  | .obj entries => do
    checkLockUser limits (Json.Object.get entries "user")
    discard (boundedText "lock.client" 1 limits.maxLockClientLength
      (Json.Object.get entries "client"))
    checkLockTime (Json.Object.get entries "createdAt")
    if (Entries.names entries).all (· ∈ lockFields) then return .obj entries
    else reject (.badEntries "lock")
  | _ => reject (.badField "lock")

def firstMissing? (s : Store) : List Json → List String → Option Json
  | item :: items, id :: ids => if s.hasNode id then firstMissing? s items ids else some item
  | _, _ => none

/-- The identifiers of nodes that are there, each once. A symlink holds at most one. -/
def checkContents (limits : Settings) (s : Store) (kind : String) :
    Json → Except Failure (List String)
  | .arr items =>
    let most : Int := if kind = symlinkKind then 1 else limits.maxContents
    if most < items.length then reject (.tooMany "content node_ids")
    else do
      let ids ← items.mapM (Identifier.parse (some "contents"))
      match firstMissing? s items ids with
      | some item => reject (.notFound item "node_id")
      | none => return ids.eraseDups
  | _ => reject (.badField "contents")

def checkOwner (s : Store) (v : Json) : Except Failure String :=
  match v.text? with
  | some t => do
    let username ← t.encode
    if s.hasUser username then return username else reject (.notFound v "user")
  | none => reject (.notFound v "user")

/-! ## Bodies -/

def checkKind : Json → Except Failure String
  | .str kind => if kind ∈ nodeKinds then .ok kind else reject (.badField "type")
  | _ => reject (.badField "type")

def checkNewFile (limits : Settings) (s : Store) (body : Json.Object) :
    Except Failure (NewNode RawText) := do
  let name ← checkName limits (Json.Object.get body "name")
  let grants ← checkPermissions limits s true (Json.Object.get body "permissions")
  let text ← checkText limits (Json.Object.get body "text")
  let tags ← checkTags limits (Json.Object.get body "tags")
  let lock ← checkLock limits (Json.Object.get body "lock")
  Fields.checkKnown newFileFields body
  return .file name text tags lock grants

def checkNewMeta (limits : Settings) (s : Store) (kind : String) (body : Json.Object) :
    Except Failure (NewNode RawText) := do
  let name ← checkName limits (Json.Object.get body "name")
  let grants ← checkPermissions limits s false (Json.Object.get body "permissions")
  let contents ← checkContents limits s kind (Json.Object.get body "contents")
  Fields.checkKnown newMetaFields body
  return .metaNode kind name contents grants

def checkNew (limits : Settings) (s : Store) : Json → Except Failure (NewNode RawText)
  | .obj body => do
    let kind ← checkKind (Json.Object.get body "type")
    if kind = fileKind then checkNewFile limits s body else checkNewMeta limits s kind body
  | _ => reject .notObject

def checkFilePatch (limits : Settings) (s : Store) (body : Json.Object) :
    Except Failure (Patch RawText) := do
  let name ← Fields.ifPresent body "name" (checkName limits)
  let permissions ← Fields.ifPresent body "permissions" (checkPermissions limits s true)
  let text ← Fields.ifPresent body "text" (checkText limits)
  let tags ← Fields.ifPresent body "tags" (checkTags limits)
  let lock ← Fields.ifPresent body "lock" (checkLock limits)
  let owner ← Fields.ifPresent body "owner" (checkOwner s)
  Fields.checkKnown filePatchFields body
  return { name, permissions, text, tags, lock, owner }

def checkMetaPatch (limits : Settings) (s : Store) (kind : String) (body : Json.Object) :
    Except Failure (Patch RawText) := do
  let name ← Fields.ifPresent body "name" (checkName limits)
  let permissions ← Fields.ifPresent body "permissions" (checkPermissions limits s false)
  let contents ← Fields.ifPresent body "contents" (checkContents limits s kind)
  let owner ← Fields.ifPresent body "owner" (checkOwner s)
  Fields.checkKnown metaPatchFields body
  return { name, permissions, contents, owner }

def checkPatch (limits : Settings) (s : Store) (kind : String) :
    Json → Except Failure (Patch RawText)
  | .obj body =>
    if kind = fileKind then checkFilePatch limits s body else checkMetaPatch limits s kind body
  | _ => reject .notObject

/-- Checks a body, as a new node or as a patch of a kind, and hands it back. -/
def check (limits : Settings) (s : Store) (kind : Option String) (body : Json) :
    Except Failure Json := do
  match kind with
  | none => discard (checkNew limits s body)
  | some k => discard (checkPatch limits s k body)
  return body

end FileShare.Body

import FileShare.Json.Value
import FileShare.Sorted
import FileShare.Text.LowerCase

/-! # Nodes

A file node holds a text; a meta node, which is a directory or a symlink, holds the identifiers of
other nodes. Both are owned and grant levels to other users. The lower-case name and the
size are derived whenever name and text are written; tags and grants are kept in order.
-/
namespace FileShare

structure FileNode where
  id : String
  owner : String
  createdAt : Int
  modifiedAt : Int
  name : String
  lowerName : String
  text : String
  size : Nat
  tags : List String
  lock : Json
  permissions : Entries String
deriving Repr

structure MetaNode where
  id : String
  kind : String
  owner : String
  createdAt : Int
  name : String
  lowerName : String
  contents : List String
  permissions : Entries String
deriving DecidableEq, Repr

def fileKind : String := "file"

def symlinkKind : String := "symlink"

def sortGrants (grants : Entries String) : Entries String :=
  sortBy (fun a b => decide (a.1 ≤ b.1)) grants

namespace FileNode

def withName (f : FileNode) (name : String) : FileNode :=
  { f with name := name, lowerName := Text.lower name }

def withText (f : FileNode) (text : String) : FileNode :=
  { f with text := text, size := text.utf8ByteSize }

def withTags (f : FileNode) (tags : List String) : FileNode := { f with tags := sortTexts tags }

def withPermissions (f : FileNode) (grants : Entries String) : FileNode :=
  { f with permissions := sortGrants grants }

def ofFields (id owner : String) (createdAt modifiedAt : Int) (name text : String)
    (tags : List String) (lock : Json) (grants : Entries String) : FileNode where
  id := id
  owner := owner
  createdAt := createdAt
  modifiedAt := modifiedAt
  name := name
  lowerName := Text.lower name
  text := text
  size := text.utf8ByteSize
  tags := sortTexts tags
  lock := lock
  permissions := sortGrants grants

end FileNode

namespace MetaNode

def withName (m : MetaNode) (name : String) : MetaNode :=
  { m with name := name, lowerName := Text.lower name }

def withPermissions (m : MetaNode) (grants : Entries String) : MetaNode :=
  { m with permissions := sortGrants grants }

def ofFields (id kind owner : String) (createdAt : Int) (name : String) (contents : List String)
    (grants : Entries String) : MetaNode where
  id := id
  kind := kind
  owner := owner
  createdAt := createdAt
  name := name
  lowerName := Text.lower name
  contents := contents
  permissions := sortGrants grants

end MetaNode

inductive Node where
  | file (f : FileNode)
  | metaNode (m : MetaNode)
deriving Repr

namespace Node

def id : Node → String
  | file f => f.id
  | metaNode m => m.id

def kind : Node → String
  | file _ => fileKind
  | metaNode m => m.kind

def owner : Node → String
  | file f => f.owner
  | metaNode m => m.owner

def permissions : Node → Entries String
  | file f => f.permissions
  | metaNode m => m.permissions

def lowerName : Node → String
  | file f => f.lowerName
  | metaNode m => m.lowerName

def grantsToJson (grants : Entries String) : Json :=
  .obj (grants.map fun g => (.text g.1, .str g.2))

/-- What those who see a node may know of it. -/
def publicFields : Node → Json.Object
  | file f => [
    ("node_id", .str f.id),
    ("type", .str fileKind),
    ("owner", .str f.owner),
    ("createdAt", .int f.createdAt),
    ("modifiedAt", .int f.modifiedAt),
    ("name", .str f.name),
    ("size", .int f.size),
    ("text", .str f.text),
    ("tags", .strings f.tags),
    ("lock", f.lock),
    ("permissions", grantsToJson f.permissions)]
  | metaNode m => [
    ("node_id", .str m.id),
    ("type", .str m.kind),
    ("owner", .str m.owner),
    ("createdAt", .int m.createdAt),
    ("name", .str m.name),
    ("contents", .strings m.contents),
    ("permissions", grantsToJson m.permissions)]

def toJson (n : Node) : Json := .obj n.publicFields

/-- All of a node, for a view of the whole store. -/
def record (n : Node) : Json.Object :=
  n.publicFields ++ ([("name_lowercase", .str n.lowerName)] : Json.Object)

end Node
end FileShare

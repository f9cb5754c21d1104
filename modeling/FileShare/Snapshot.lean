import FileShare.Store

/-! # Snapshots

A snapshot lists rows of the three tables. They are taken in as they are, with their identifiers
and without checks; only the derived columns are worked out.
-/
namespace FileShare.Snapshot

def textOf : Json → String
  | .str s => s
  | _ => ""

def integerOf : Json → Int
  | .num (.int n) => n
  | _ => 0

def itemsOf : Json → List Json
  | .arr items => items
  | _ => []

def entriesOf : Json → Json.Object
  | .obj entries => entries
  | _ => []

def grantsOf (v : Json) : Entries String :=
  (entriesOf v).map fun e => (textOf (.ofText e.1), textOf e.2)

def user (row : Json.Object) : User :=
  User.ofFields (textOf (row.get "id")) (textOf (row.get "username")) (textOf (row.get "email"))
    (textOf (row.get "salt")) (textOf (row.get "key"))

def file (row : Json.Object) : FileNode :=
  FileNode.ofFields (textOf (row.get "id")) (textOf (row.get "owner"))
    (integerOf (row.get "created_at")) (integerOf (row.get "modified_at"))
    (textOf (row.get "name")) (textOf (row.get "text")) ((itemsOf (row.get "tags")).map textOf)
    (row.get "lock") (grantsOf (row.get "permissions"))

def metaNode (row : Json.Object) : MetaNode :=
  MetaNode.ofFields (textOf (row.get "id")) (textOf (row.get "type")) (textOf (row.get "owner"))
    (integerOf (row.get "created_at")) (textOf (row.get "name"))
    ((itemsOf (row.get "contents")).map textOf) (grantsOf (row.get "permissions"))

def load (s : Store) (snapshot : Json) : Store :=
  let rows (table : String) : List Json.Object :=
    (itemsOf (Json.Object.get (entriesOf snapshot) table)).map entriesOf
  { users := s.users ++ (rows "users").map user
    files := s.files ++ (rows "files").map file
    metas := s.metas ++ (rows "metas").map metaNode }

end FileShare.Snapshot

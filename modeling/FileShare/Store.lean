import FileShare.Node
import FileShare.User

/-! # The store

The store holds three tables of rows in the order of their insertion. A row is found by its
identifier, an account also by its name. Writes are stated row by row: what they do to the row they
name, and that they leave the others.
-/
namespace FileShare

structure Store where
  users : List User := []
  files : List FileNode := []
  metas : List MetaNode := []
deriving Repr, Inhabited

namespace Store

/-- Integers that the store takes are signed and have 64 bits. -/
def fitsInteger (n : Int) : Bool := -0x8000000000000000 ≤ n && n < 0x8000000000000000

/-! ## Looking up -/

def userNamed? (s : Store) (username : String) : Option User :=
  s.users.find? fun u => u.username = username

def hasUser (s : Store) (username : String) : Bool := (s.userNamed? username).isSome

def hasUserId (s : Store) (id : String) : Bool := s.users.any fun u => u.id = id

def hasNode (s : Store) (id : String) : Bool :=
  s.files.any (fun f => f.id = id) || s.metas.any fun m => m.id = id

def nodes (s : Store) : List Node := s.files.map .file ++ s.metas.map .metaNode

def firstUnknownUser? (s : Store) (usernames : List String) : Option String :=
  usernames.find? fun u => !s.hasUser u

/-- Those of the names that some account has, each once and in order. -/
def knownUsers (s : Store) (usernames : List String) : List String :=
  sortTexts ((s.users.map User.username).filter (· ∈ usernames))

/-- Those of the identifiers that some node has, each once and in order. -/
def knownNodes (s : Store) (ids : List String) : List String :=
  sortTexts ((s.nodes.map Node.id).filter (· ∈ ids)).eraseDups

/-! ## Accounts -/

/-- The column in which a new account meets one that is there. -/
inductive Clash where
  | email
  | username
  | identifier
deriving DecidableEq, Repr

/-- Addresses are compared first, names next, identifiers last. -/
def clash? (s : Store) (u : User) : Option Clash :=
  if s.users.any fun v => v.lowerEmail = u.lowerEmail then some .email
  else if s.users.any fun v => v.lowerUsername = u.lowerUsername then some .username
  else if s.users.any fun v => v.id = u.id then some .identifier
  else none

def addUser (s : Store) (u : User) : Except Clash Store :=
  match s.clash? u with
  | some c => .error c
  | none => .ok { s with users := s.users ++ [u] }

/-- The new row takes the place of the row of its identifier. -/
def replaceUser (s : Store) (u : User) : Except Clash Store :=
  if s.users.any fun v => v.id ≠ u.id && v.lowerEmail = u.lowerEmail then .error .email
  else .ok { s with users := s.users.map fun v => if v.id = u.id then u else v }

def removeUser (s : Store) (u : User) : Store :=
  { s with users := s.users.filter fun v => v.id ≠ u.id }

def revokeGrants (s : Store) (username : String) : Store :=
  let keep (grants : Entries String) := grants.filter fun g => g.1 ≠ username
  { s with
    files := s.files.map fun f => { f with permissions := keep f.permissions }
    metas := s.metas.map fun m => { m with permissions := keep m.permissions } }

/-! ## Nodes -/

/-- A table holds an identifier once. -/
def addNode (s : Store) : Node → Option Store
  | .file f =>
    if s.files.any fun g => g.id = f.id then none else some { s with files := s.files ++ [f] }
  | .metaNode m =>
    if s.metas.any fun k => k.id = m.id then none else some { s with metas := s.metas ++ [m] }

def replaceNode (s : Store) : Node → Store
  | .file f => { s with files := s.files.map fun g => if g.id = f.id then f else g }
  | .metaNode m => { s with metas := s.metas.map fun k => if k.id = m.id then m else k }

/-- The identifiers among the given ones of the nodes that a user owns. -/
def ownedAmong (s : Store) (owner : String) (ids : List String) : List String :=
  (s.nodes.filter fun n => n.id ∈ ids && n.owner = owner).map Node.id

def removeOwned (s : Store) (owner : String) (ids : List String) : Store :=
  { s with
    files := s.files.filter fun f => !(f.id ∈ ids && f.owner = owner)
    metas := s.metas.filter fun m => !(m.id ∈ ids && m.owner = owner) }

def pullFromContents (s : Store) (ids : List String) : Store :=
  { s with metas := s.metas.map fun m => { m with contents := m.contents.filter (· ∉ ids) } }

/-! ## The whole store -/

/-- Accounts by identifier, then files, then meta nodes, each by identifier. -/
def toJson (s : Store) : Json :=
  let users := sortBy (fun (a b : User) => decide (a.id ≤ b.id)) s.users
  let files := sortBy (fun (a b : FileNode) => decide (a.id ≤ b.id)) s.files
  let metas := sortBy (fun (a b : MetaNode) => decide (a.id ≤ b.id)) s.metas
  let nodes := files.map Node.file ++ metas.map Node.metaNode
  .obj [("users", .arr (users.map fun u => .obj u.record)),
    ("nodes", .arr (nodes.map fun n => .obj n.record))]

end Store
end FileShare

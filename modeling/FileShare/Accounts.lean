import FileShare.Email
import FileShare.Fields
import FileShare.Username
import FileShare.World

/-! # Accounts: registration, profiles, deletion, authentication

A registration and a patch are checked before the store is asked anything. An identifier is drawn
only for a registration that passes the checks, and it is spent even if the store refuses the row.
-/
namespace FileShare

namespace Accounts

structure NewUser where
  username : String
  email : String
  salt : String
  key : String
deriving DecidableEq, Repr

structure Patch where
  email : Option String := none
  salt : Option String := none
  key : Option String := none
deriving DecidableEq, Repr

def newFields : List RawText := ["username", "email", "salt", "key"]

def patchFields : List RawText := ["email", "salt", "key"]

/-! ## Checks -/

def checkEmail (limits : Settings) (v : Json) : Except Failure String :=
  let refusal : Rejection :=
    .badLength "email" (.within limits.minEmailLength limits.maxEmailLength) .text
  match v with
  | .str s =>
    if Email.isAddress s && withinLimits limits.minEmailLength limits.maxEmailLength s.length then
      .ok s
    else reject refusal
  | _ => reject refusal

def checkHex (field : String) (length : Int) (v : Json) : Except Failure String :=
  let refusal : Rejection := .badLength field (.exactly length) .hexadecimal
  match v with
  | .str s =>
    if !s.toList.isEmpty && s.toList.all Text.isHexDigit && (s.length : Int) = length then
      .ok (Text.lower s)
    else reject refusal
  | _ => reject refusal

def checkUsername (limits : Settings) (v : Json) : Except Failure String :=
  let refusal : Rejection :=
    .badLength "username" (.within limits.minUsernameLength limits.maxUsernameLength) .text
  match v with
  | .str s =>
    if !Username.isShaped limits s then reject refusal
    else if s = publicGrantee then reject .reservedUsername
    else .ok s
  | _ => reject refusal

def checkNew (limits : Settings) : Json → Except Failure NewUser
  | .obj body => do
    let email ← checkEmail limits (Json.Object.get body "email")
    let salt ← checkHex "salt" limits.saltLength (Json.Object.get body "salt")
    let key ← checkHex "key" limits.keyLength (Json.Object.get body "key")
    let username ← checkUsername limits (Json.Object.get body "username")
    Fields.checkKnown newFields body
    return { username, email, salt, key }
  | _ => reject .notObject

def checkPatch (limits : Settings) : Json → Except Failure Patch
  | .obj body => do
    let email ← Fields.ifPresent body "email" (checkEmail limits)
    let salt ← Fields.ifPresent body "salt" (checkHex "salt" limits.saltLength)
    let key ← Fields.ifPresent body "key" (checkHex "key" limits.keyLength)
    Fields.checkKnown patchFields body
    return { email, salt, key }
  | _ => reject .notObject

/-! ## Reading -/

def require (s : Store) (username : String) : Except Failure User :=
  match s.userNamed? username with
  | some u => .ok u
  | none => reject (.notFound (.str username) "user")

def get (s : Store) (username : String) : Except Failure PublicUser := do
  return (← require s username).toPublic

/-- A page has at least one place. -/
def pageSize (limits : Settings) : Int := max limits.resultsPerPage 1

/-- The accounts below a cursor, newest first, cut to a page. -/
def page (limits : Settings) (after : Option String) (users : List User) : List User :=
  let below := users.filter fun u => after.all fun id => decide (u.id < id)
  (sortBy (fun a b => decide (b.id ≤ a.id)) below).take (pageSize limits).toNat

def list (limits : Settings) (after : Json) (s : Store) : Except Failure (List PublicUser) := do
  let cursor ← Identifier.parseOptional (some "after") after
  if cursor.any fun id => !s.hasUserId id then reject (.notFound after "user_id")
  else if !Store.fitsInteger (pageSize limits) then breakDown .integerTooWide
  else return (page limits cursor s.users).map User.toPublic

/-- The key is the one of the account, in either case. Both are compared in their UTF-8 forms. -/
def authenticate (s : Store) (username : String) (key : Json) : Except Failure Bool :=
  match key.text? with
  | none | some (.text "") => .ok false
  | some given =>
    match s.userNamed? username with
    | none => .ok false
    | some u => do return decide (u.key = (← given.lower.encode))

/-! ## Writing -/

def clashFailure : Store.Clash → Failure
  | .email => .rejected (.fieldTaken "email")
  | .username => .rejected (.fieldTaken "username")
  | .identifier => .broken .identifierTaken

def create (limits : Settings) (now : Instant) (body : Json) (w : World) :
    Except Failure PublicUser × World :=
  match checkNew limits body with
  | .error e => (.error e, w)
  | .ok fields =>
    let (id, generator) := w.generator.draw now
    let u := User.ofFields id fields.username fields.email fields.salt fields.key
    match w.store.addUser u with
    | .error clash => (.error (clashFailure clash), { w with generator })
    | .ok store => (.ok u.toPublic, { store, generator })

def Patch.apply (p : Patch) (u : User) : User :=
  let u := match p.email with
    | some email => u.withEmail email
    | none => u
  { u with salt := p.salt.getD u.salt, key := p.key.getD u.key }

/-- An empty patch is no request at all. -/
def isEmptyObject : Json → Bool
  | .obj [] => true
  | _ => false

def update (limits : Settings) (username : String) (body : Json) (s : Store) :
    Except Failure Store :=
  if isEmptyObject body then .ok s
  else do
    let patch ← checkPatch limits body
    let u ← require s username
    (s.replaceUser (patch.apply u)).mapError clashFailure

/-- Deletes an account and every grant to it; its nodes stay. -/
def delete (username : String) (s : Store) : Except Failure Store := do
  let u ← require s username
  return (s.removeUser u).revokeGrants username

end Accounts

end FileShare

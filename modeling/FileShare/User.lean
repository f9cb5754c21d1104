import FileShare.Json.Value
import FileShare.Text.LowerCase

/-! # Accounts

An account holds its name and address also in lower case, because no two accounts may agree in
either of those. The key proves who the user is and is never shown.
-/
namespace FileShare

structure User where
  id : String
  username : String
  lowerUsername : String
  email : String
  lowerEmail : String
  salt : String
  key : String
deriving DecidableEq, Repr

/-- What anyone may see of an account. -/
structure PublicUser where
  id : String
  username : String
  email : String
  salt : String
deriving DecidableEq, Repr

namespace User

def ofFields (id username email salt key : String) : User where
  id := id
  username := username
  lowerUsername := Text.lower username
  email := email
  lowerEmail := Text.lower email
  salt := salt
  key := key

def withEmail (u : User) (email : String) : User :=
  { u with email := email, lowerEmail := Text.lower email }

def toPublic (u : User) : PublicUser := ⟨u.id, u.username, u.email, u.salt⟩

/-- All of an account, for a view of the whole store. -/
def record (u : User) : Json.Object := [
  ("id", .str u.id),
  ("username", .str u.username),
  ("username_lowercase", .str u.lowerUsername),
  ("email", .str u.email),
  ("email_lowercase", .str u.lowerEmail),
  ("salt", .str u.salt),
  ("key", .str u.key)]

end User

def PublicUser.toJson (u : PublicUser) : Json := .obj [
  ("user_id", .str u.id),
  ("username", .str u.username),
  ("email", .str u.email),
  ("salt", .str u.salt)]

end FileShare

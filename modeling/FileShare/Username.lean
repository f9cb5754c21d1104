import FileShare.Settings

/-! # User names and grantees -/
namespace FileShare

/-- The grantee that stands for everyone. No account may take this name. -/
def publicGrantee : String := "public"

def withinLimits (least most : Int) (n : Nat) : Bool := least ≤ n && (n : Int) ≤ most

namespace Username

def isNameChar (c : Char) : Bool :=
  ('a' ≤ c && c ≤ 'z') || ('A' ≤ c && c ≤ 'Z') || ('0' ≤ c && c ≤ '9') || c == '_' || c == '-'

/-- One or more letters, digits, low lines and hyphens. -/
def isName (s : String) : Bool := !s.toList.isEmpty && s.toList.all isNameChar

/-- The text has the form of a user name, whether or not there is such a user. -/
def isShaped (limits : Settings) (s : String) : Bool :=
  withinLimits limits.minUsernameLength limits.maxUsernameLength s.length && isName s

end Username
end FileShare

/-! # Addresses

An address is a local part, an at sign and a domain; the domain ends with a dot and two or more
letters. Letters count without regard to case, so the four characters outside ASCII that are case
forms of its letters count as letters too.
-/
namespace FileShare.Email

def isLetter (c : Char) : Bool :=
  ('a' ≤ c && c ≤ 'z') || ('A' ≤ c && c ≤ 'Z') ||
    c == 'ı' || c == 'İ' || c == 'ſ' || c == '\u212a'

def isDigit (c : Char) : Bool := '0' ≤ c && c ≤ '9'

def isDomainChar (c : Char) : Bool := isLetter c || isDigit c || c == '.' || c == '-'

def isLocalChar (c : Char) : Bool :=
  isLetter c || isDigit c || c == '.' || c == '_' || c == '%' || c == '+' || c == '-'

/-- Characters of a domain, of which the last dot has some before it and letters after it. -/
def isDomain (cs : List Char) : Bool :=
  let last := (cs.reverse.takeWhile (· ≠ '.')).reverse
  let before := (cs.reverse.dropWhile (· ≠ '.')).drop 1
  cs.all isDomainChar && !before.isEmpty && 2 ≤ last.length && last.all isLetter

def isAddress (s : String) : Bool :=
  let name := s.toList.takeWhile (· ≠ '@')
  !name.isEmpty && name.all isLocalChar &&
    match s.toList.dropWhile (· ≠ '@') with
    | [] => false
    | _ :: domain => isDomain domain

end FileShare.Email

/-! # Code points

A text of the program is a row of code points. Those that pair up to write a character beyond the
first plane are no characters by themselves, and a text that holds one has no UTF-8 form.
-/
namespace FileShare

/-- Half of a surrogate pair, by its place among the surrogates. -/
structure Surrogate where
  place : Fin 0x800
deriving DecidableEq, Repr

namespace Surrogate

def toNat (h : Surrogate) : Nat := 0xd800 + h.place.val

def ofNat? (n : Nat) : Option Surrogate :=
  if h : 0xd800 ≤ n ∧ n < 0xe000 then some ⟨⟨n - 0xd800, by omega⟩⟩ else none

end Surrogate

inductive CodePoint where
  | char (c : Char)
  | surrogate (h : Surrogate)
deriving DecidableEq, Repr

namespace CodePoint

def toNat : CodePoint → Nat
  | char c => c.toNat
  | surrogate h => h.toNat

def ofNat (n : Nat) : CodePoint :=
  match Surrogate.ofNat? n with
  | some h => surrogate h
  | none => char (Char.ofNat n)

def char? : CodePoint → Option Char
  | char c => some c
  | surrogate _ => none

end CodePoint
end FileShare

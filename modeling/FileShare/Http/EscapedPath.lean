import FileShare.Text.Hex

/-! # Escaped paths

In a request a path is written with escapes that stand for bytes. The bytes are text in UTF-8;
what is no UTF-8 reads as the replacement character, once for each longest beginning of a
character that breaks off.
-/
namespace FileShare.Http

/-- A byte, or a character that no escape is needed to write. -/
inductive PathUnit where
  | byte (b : Nat)
  | whole (c : Char)
deriving DecidableEq, Repr

def unitOf (c : Char) : PathUnit := if c.toNat < 0x80 then .byte c.toNat else .whole c

/-- A percent sign without two hexadecimal digits stands for itself. -/
def pathUnits : List Char → List PathUnit
  | '%' :: high :: low :: rest =>
    match Text.hexValue? high, Text.hexValue? low with
    | some h, some l => .byte (16 * h + l) :: pathUnits rest
    | _, _ => unitOf '%' :: pathUnits (high :: low :: rest)
  | c :: rest => unitOf c :: pathUnits rest
  | [] => []

/-- A character of which some bytes were read: how many are to come, the number so far, and the
limits of the next byte. -/
structure Pending where
  left : Nat
  number : Nat
  least : Nat := 0x80
  most : Nat := 0xbf
deriving DecidableEq, Repr

inductive Lead where
  | ascii
  | invalid
  | opens (p : Pending)
deriving Repr

/-- What a byte means that does not continue a character. Overlong forms, surrogates and numbers
past the last code point are excluded by the limits of the second byte. -/
def leadOf (b : Nat) : Lead :=
  if b < 0x80 then .ascii
  else if b < 0xc2 then .invalid
  else if b < 0xe0 then .opens { left := 1, number := b - 0xc0 }
  else if b = 0xe0 then .opens { left := 2, number := 0, least := 0xa0 }
  else if b = 0xed then .opens { left := 2, number := b - 0xe0, most := 0x9f }
  else if b < 0xf0 then .opens { left := 2, number := b - 0xe0 }
  else if b = 0xf0 then .opens { left := 3, number := 0, least := 0x90 }
  else if b < 0xf4 then .opens { left := 3, number := b - 0xf0 }
  else if b = 0xf4 then .opens { left := 3, number := 4, most := 0x8f }
  else .invalid

def replacement : Char := '\ufffd'

def decodeFrom (pending : Option Pending) : List PathUnit → List Char
  | [] => if pending.isSome then [replacement] else []
  | .whole c :: rest => (if pending.isSome then [replacement] else []) ++ c :: decodeFrom none rest
  | .byte b :: rest =>
    let start : List Char :=
      match leadOf b with
      | .ascii => Char.ofNat b :: decodeFrom none rest
      | .invalid => replacement :: decodeFrom none rest
      | .opens p => decodeFrom (some p) rest
    match pending with
    | none => start
    | some p =>
      if p.least ≤ b ∧ b ≤ p.most then
        let number := 64 * p.number + (b - 0x80)
        if p.left ≤ 1 then Char.ofNat number :: decodeFrom none rest
        else decodeFrom (some { left := p.left - 1, number }) rest
      else replacement :: start

def unescapePath (path : String) : List Char := decodeFrom none (pathUnits path.toList)

end FileShare.Http

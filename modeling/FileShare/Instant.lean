import FileShare.Number.Binary64

/-! # Instants

An instant counts microseconds from the epoch. Its seconds are the nearest binary64 word, so
the milliseconds cut from that word can fall one short of the exact quotient.
-/
namespace FileShare

structure Instant where
  microseconds : Int
deriving DecidableEq, Repr, Inhabited

namespace Instant

def seconds (t : Instant) : Binary64 := Binary64.ofIntRatio t.microseconds 1000000

def wholeSeconds (t : Instant) : Int := t.seconds.truncate

def milliseconds (t : Instant) : Int := (t.seconds.mulInt 1000).truncate

def later (t : Instant) (microseconds : Int) : Instant := ⟨t.microseconds + microseconds⟩

end Instant
end FileShare

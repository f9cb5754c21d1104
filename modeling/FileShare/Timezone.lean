import FileShare.Text.Split

/-! # Time zones of constant offset

The names of Coordinated Universal Time and of the whole-hour zones are known. The sign in the
name of a whole-hour zone is that of its longitude, so it is opposite to that of its offset.
-/
namespace FileShare

structure Timezone where
  name : String
  offsetHours : Int
deriving DecidableEq, Repr

namespace Timezone

def utc : Timezone := ⟨"UTC", 0⟩

def utcNames : List String :=
  ["UTC", "UCT", "GMT", "GMT0", "GMT+0", "GMT-0", "Greenwich", "Universal", "Zulu"]

/-- The hours that a zone west of Greenwich lies behind and those that one east lies ahead. -/
def hourNames : List (String × Int) :=
  (List.range 13).map (fun (h : Nat) => (s!"GMT+{h}", -(h : Int))) ++
    (List.range 15).map (fun (h : Nat) => (s!"GMT-{h}", (h : Int)))

def named? (name : String) : Option Timezone :=
  let short := (Text.rest? "Etc/" name).getD name
  if short ∈ utcNames then some ⟨name, 0⟩
  else if short = name then none
  else (hourNames.lookup short).map fun h => ⟨name, h⟩

/-- The short name that goes with the offset. -/
def abbreviation (z : Timezone) : String :=
  let digits := toString z.offsetHours.natAbs
  let padded := if z.offsetHours.natAbs < 10 then "0" ++ digits else digits
  if z.offsetHours < 0 then "-" ++ padded
  else if 0 < z.offsetHours then "+" ++ padded
  else if Text.contains "GMT" z.name || Text.contains "Greenwich" z.name then "GMT"
  else "UTC"

/-- A name that is not known stands for Coordinated Universal Time. -/
def ofName (name : String) : Timezone := (named? name).getD utc

end Timezone
end FileShare

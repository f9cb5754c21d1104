import FileShare.Proofs.Runs.Calls

/-! # Courses

A reachable store says nothing about the calls that led to it. A course does: it is the list of the
calls between two stores, each with what it answered, the last one first. A call may have any
settings, clock and generator, as in a run.
-/
namespace FileShare

structure Event where
  call : Call
  outcome : Except Failure Reply

namespace Event

def Succeeds (e : Event) : Prop := ∃ reply, e.outcome = .ok reply

def Ends (username : String) (e : Event) : Prop :=
  e.Succeeds ∧ e.call.operation = .deleteUser username

end Event

def Call.event (c : Call) (s : Store) : Event := ⟨c, c.result s⟩

/-- The calls that lead from one store to another, the last one first. -/
inductive Course (s : Store) : List Event → Store → Prop
  | nil : Course s [] s
  | cons {past : List Event} {t : Store} (c : Call) (before : Course s past t) :
      Course s (c.event t :: past) (c.after t)

theorem Reachable.course {allowed : Call → Store → Prop} {s : Store} (h : Reachable allowed s) :
    ∃ events, Course {} events s := by
  induction h with
  | empty => exact ⟨[], .nil⟩
  | @call c s _ _ ih =>
    obtain ⟨events, hevents⟩ := ih
    exact ⟨c.event s :: events, hevents.cons c⟩

namespace Course
variable {s t : Store} {events : List Event}

theorem reachable (h : Course s events t) (hs : Reachable (fun _ _ => True) s) :
    Reachable (fun _ _ => True) t := by
  induction h with
  | nil => exact hs
  | cons c _ ih => exact .call ih trivial

theorem lasting {P : Store → Prop} {Passes : Event → Prop} (h : Course s events t) (hs : P s)
    (hevents : ∀ e ∈ events, Passes e)
    (step : ∀ (c : Call) (t : Store), Passes (c.event t) → P t → P (c.after t)) : P t := by
  induction h with
  | nil => exact hs
  | cons c _ ih =>
    obtain ⟨hlast, hpast⟩ := List.forall_mem_cons.mp hevents
    exact step c _ hlast (ih hpast)

end Course

/-! ## A short course -/

namespace Sample

def move : Call := call 5 (.updateUser "anna" (.obj [("email", .str "Anna@Post.org"),
  ("key", .str "1C")]))

def leave : Call := call 6 (.deleteUser "bert")

def rejoin : Call := enrol 7 "bert" "bert@post.org"

def later : Store := rejoin.after (leave.after (move.after shelf))

/-- One user changes the address and the key, the other leaves and comes back. -/
def season : List Event :=
  [rejoin.event (leave.after (move.after shelf)), leave.event (move.after shelf), move.event shelf]

theorem season_course : Course shelf season later :=
  ((Course.nil.cons move).cons leave).cons rejoin

end Sample
end FileShare

/-!
Transition events and the queue in which they wait for the caller. The queue never holds up a tick:
if the caller falls behind, the oldest event is lost.
-/
namespace Soaring

/-- Something that the caller may want to react to. -/
inductive Event where
  /-- The engine is built and ready. -/
  | ready
  | takeoff
  | landing
  | taskStarted
  | taskFinished
  deriving DecidableEq

def Event.name : Event → String
  | ready => "ComputerReady"
  | takeoff => "Takeoff"
  | landing => "Landing"
  | taskStarted => "TaskStarted"
  | taskFinished => "TaskFinished"

def Event.all : List Event := [.ready, .takeoff, .landing, .taskStarted, .taskFinished]

def maxPendingEvents : Nat := 16

/-- The events not yet taken by the caller, oldest first. -/
structure EventQueue where
  pending : List Event
  length_le : pending.length ≤ maxPendingEvents

namespace EventQueue

def empty : EventQueue := ⟨[], Nat.zero_le _⟩

instance : Inhabited EventQueue := ⟨empty⟩

/-- The event that a push will lose, if the queue is full. -/
def overflow? (q : EventQueue) : Option Event :=
  if q.pending.length = maxPendingEvents then q.pending.head? else none

/-- Adds an event behind the others. A full queue loses its oldest event first. -/
def push (q : EventQueue) (event : Event) : EventQueue :=
  if room : q.pending.length < maxPendingEvents then
    ⟨q.pending ++ [event], by simpa using Nat.succ_le_of_lt room⟩
  else
    ⟨q.pending.tail ++ [event], by
      have := q.length_le
      have : 0 < maxPendingEvents := by decide
      simp only [List.length_append, List.length_tail, List.length_singleton]
      omega⟩

def pop? (q : EventQueue) : Option (Event × EventQueue) :=
  match h : q.pending with
  | [] => none
  | event :: rest => some (event, ⟨rest, by
      have := q.length_le
      simp only [h, List.length_cons] at this
      omega⟩)

/-- Takes events one after the other, as long as there are any, up to the given number. -/
def drain (q : EventQueue) : (limit : Nat) → List Event × EventQueue
  | 0 => ([], q)
  | limit + 1 => match q.pop? with
    | none => ([], q)
    | some (event, rest) =>
      let (events, left) := rest.drain limit
      (event :: events, left)

end EventQueue

end Soaring

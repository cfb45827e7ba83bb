import Soaring.Clock.Gate

/-!
Period clocks: throttles that fire at most once per interval. They run on the stamps that they are
given and never on the time of the machine, so a replayed flight has the rhythm of the flown one.
-/
namespace Soaring

/-- The time at which the clock fired last, or was started. -/
structure PeriodClock where
  last : Option Stamp
  deriving DecidableEq, Inhabited

namespace PeriodClock

def unset : PeriodClock := ⟨none⟩

def restart (_ : PeriodClock) (now : Stamp) : PeriodClock := ⟨some now⟩

def isDefined (c : PeriodClock) : Bool := c.last.isSome

/-- The time since the clock fired last, unless that lies in the future. -/
def elapsed (c : PeriodClock) (now : Stamp) : Option Nat :=
  match c.last with
  | some last => if last ≤ now then some (now - last) else none
  | none => none

/-- The clock is to fire: it never did, or time has gone back, or the interval is over. -/
def isDue (c : PeriodClock) (now interval : Stamp) : Bool :=
  match c.last with
  | none => true
  | some last => now < last || interval ≤ now - last

/-- Fires if due, at once on a clock that has not started. -/
def check (c : PeriodClock) (now interval : Stamp) : PeriodClock × Bool :=
  if c.isDue now interval then (⟨some now⟩, true) else (c, false)

/-- Fires if due, but only starts a clock that has not started. -/
def checkAfterStart (c : PeriodClock) (now interval : Stamp) : PeriodClock × Bool :=
  match c.last with
  | none => (⟨some now⟩, false)
  | some _ => c.check now interval

end PeriodClock

end Soaring

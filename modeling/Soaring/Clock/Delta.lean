import Soaring.Clock.Gate

/-!
Delta clocks: measures of the time between accepted stamps. Steps below a minimum are held back
until they add up, and a stamp before the accepted one is a warp and not a negative step.
-/
namespace Soaring

/-- What a stamp means after the one accepted last. -/
inductive TimeStep where
  /-- The first stamp, or too little time since the accepted one. -/
  | pending
  /-- Time has passed, in milliseconds, and the stamp was accepted. -/
  | elapsed (span : Nat)
  /-- Time has gone back; the stamp was accepted as a new start. -/
  | warp
  deriving DecidableEq

/-- The stamp accepted last. -/
structure DeltaClock where
  last : Option Stamp
  deriving DecidableEq, Inhabited

namespace DeltaClock

def unset : DeltaClock := ⟨none⟩

def isDefined (c : DeltaClock) : Bool := c.last.isSome

/-- Takes in a stamp, with the least step to be reported. -/
def feed (c : DeltaClock) (now least : Stamp) : DeltaClock × TimeStep :=
  match c.last with
  | none => (⟨some now⟩, .pending)
  | some last =>
    if now < last then (⟨some now⟩, .warp)
    else if now - last < least then (c, .pending)
    else (⟨some now⟩, .elapsed (now - last))

end DeltaClock

end Soaring

import Soaring.Clock.Gate

/-!
Task statistics, as the task manager publishes them.
-/
namespace Soaring

structure TaskProgress where
  valid : Bool := false
  started : Bool := false
  finished : Bool := false
  startTime : Option Stamp := none
  /-- The index of the active turnpoint. -/
  activeIndex : Nat := 0
  /-- Metres. -/
  distanceRemaining : Option Float := none
  /-- Metres. -/
  distanceTravelled : Option Float := none
  /-- Metres per second. -/
  averageSpeed : Option Float := none
  deriving BEq

end Soaring

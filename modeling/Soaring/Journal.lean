import Soaring.Event
import Soaring.Instruments

/-!
The journal of an operation: what it did to the world outside the engine's own state, in order.
-/
namespace Soaring

/-- How much a note matters. -/
inductive Level where
  | debug
  | info
  | warn
  deriving DecidableEq

def Level.name : Level → String
  | debug => "DEBUG"
  | info => "INFO"
  | warn => "WARN"

inductive Note where
  | referenceResolved (id : WaypointId)
  | referenceNotFound (id : WaypointId)
  /-- GPS time went back. -/
  | timeWarp
  | taskStarted (clock : Stamp)
  | taskFinished (clock : Stamp)
  | takeoff (clock : Stamp)
  | landing (clock : Stamp)
  /-- The event queue was full and lost its oldest event. -/
  | eventDropped (event : Event)
  | settingsRejected (error : Error)

namespace Note

def level : Note → Level
  | referenceResolved _ => .debug
  | taskStarted _ | taskFinished _ | takeoff _ | landing _ => .info
  | referenceNotFound _ | timeWarp | eventDropped _ | settingsRejected _ => .warn

def text : Note → String
  | referenceResolved id => "Team reference " ++ toString id.value.toNat ++ " resolved"
  | referenceNotFound id => "Team reference waypoint " ++ toString id.value.toNat ++ " not found"
  | timeWarp => "GPS time went backwards, clearing trace history"
  | taskStarted clock => "Task started at clock " ++ toString clock
  | taskFinished clock => "Task finished at clock " ++ toString clock
  | takeoff clock => "Takeoff at clock " ++ toString clock
  | landing clock => "Landing at clock " ++ toString clock
  | eventDropped event => "Event queue full, dropped Some(" ++ event.name ++ ")"
  | settingsRejected error => "Settings rejected: " ++ error.message

def line (n : Note) : String := n.level.name ++ " " ++ n.text

end Note

inductive Entry where
  /-- An instrument was called. -/
  | call (call : Call)
  /-- A note was logged. -/
  | note (note : Note)
  /-- The waypoint store was consulted. -/
  | lookup (id : WaypointId)
  /-- An event was put into the queue. -/
  | event (event : Event)

end Soaring

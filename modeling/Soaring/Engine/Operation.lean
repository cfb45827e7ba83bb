import Soaring.Engine.Reset
import Soaring.Engine.Tick

/-!
The operations that a caller has on an engine, each as a function and all together as a type, so
that runs of them can be spoken of.
-/
namespace Soaring

namespace Engine

variable {Memory : Type}

/-- The work of lower priority, done when there is time to spare. -/
def idlePass (e : Engine Memory) (exhaustive : Bool) : Engine Memory :=
  let e := (e.observe (.statisticsLog e.sample))
    |>.observe (.recorder e.feed)
    |>.revise (.taskIdle e.feed exhaustive)
    |>.updateWarnings e.feed exhaustive
    |>.observe (.idleMonitors e.feed)
  match e.sample.location with
  | some location => e.notify (.trackPoint location)
  | none => e

/-- The start line was crossed. -/
def startTask (e : Engine Memory) : Engine Memory :=
  let clock := e.sample.clock
  let noted := e.note (.taskStarted clock)
  { noted with situation := noted.situation.startTask clock }
    |>.notify .restartAirStatistics
    |>.notify (.startStatistics e.sample)
    |>.notify (.startRecorder e.sample)
    |>.notify .fastRecording
    |>.record .taskStarted

/-- The observation zone of a turnpoint was entered. -/
def enterZone (e : Engine Memory) : Engine Memory := e.notify .fastRecording

/-- Takes over settings that are usable. Otherwise the old ones stay. -/
def setSettings (e : Engine Memory) (settings : Settings) : Engine Memory × Except Error Unit :=
  match settings.validate with
  | .ok () => ({ e with settings := settings }, .ok ())
  | .error error => (e.note (.settingsRejected error), .error error)

/-- Replaces the store of waypoints. The reference is looked up anew, but the throttle of the own
code goes on. -/
def setWaypoints (e : Engine Memory) (waypoints : WaypointSource) : Engine Memory :=
  { e with waypoints := waypoints, tracker := e.tracker.forgetReference }

/-- Takes waiting events, up to the given number or all of them. -/
def drainEvents (e : Engine Memory) (limit : Option Nat) : Engine Memory × List Event :=
  let (taken, left) := e.events.drain (limit.getD e.events.pending.length)
  ({ e with events := left }, taken)

end Engine

inductive Operation where
  | tick (sample : Sample) (force : Bool)
  | idlePass (exhaustive : Bool)
  | resetFlight (full : Bool)
  | startTask
  | enterZone
  | saveFinish
  | restoreFinish
  | setSettings (settings : Settings)
  | setWaypoints (waypoints : WaypointSource)
  | drainEvents (limit : Option Nat)

/-- What an operation gives back to the caller. -/
inductive Reply where
  | done
  /-- An idle pass is due, or not. -/
  | idleDue (due : Bool)
  | verdict (result : Except Error Unit)
  | events (taken : List Event)

namespace Engine

variable {Memory : Type}

/-- Performs an operation. Afterwards the journal holds what it did. -/
def perform (e : Engine Memory) (operation : Operation) : Engine Memory × Reply :=
  let e := e.openJournal
  match operation with
  | .tick sample force => let (e, due) := e.tick sample force; (e, .idleDue due)
  | .idlePass exhaustive => (e.idlePass exhaustive, .done)
  | .resetFlight full => (e.resetFlight full, .done)
  | .startTask => (e.startTask, .done)
  | .enterZone => (e.enterZone, .done)
  | .saveFinish => (e.saveFinish, .done)
  | .restoreFinish => (e.restoreFinish, .done)
  | .setSettings settings => let (e, result) := e.setSettings settings; (e, .verdict result)
  | .setWaypoints waypoints => (e.setWaypoints waypoints, .done)
  | .drainEvents limit => let (e, taken) := e.drainEvents limit; (e, .events taken)

def run (e : Engine Memory) (operations : List Operation) : Engine Memory :=
  operations.foldl (fun e operation => (e.perform operation).1) e

end Engine

end Soaring

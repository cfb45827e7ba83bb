import Soaring.Engine.Basic

/-!
The finish of a task. The situation at the finish line is kept and comes back on landing, so that
the pilot sees the finish and not the taxiway.
-/
namespace Soaring.Engine

variable {Memory : Type}

def saveFinish (e : Engine Memory) : Engine Memory := { e with finish := some e.situation }

/-- Brings back the situation of the finish line, if one was kept; whether the aircraft flies stays
as it is now. -/
def restoreFinish (e : Engine Memory) : Engine Memory :=
  match e.finish with
  | some saved => { e with situation := { saved with flight := e.situation.flight } }
  | none => e

def finishTask (e : Engine Memory) : Engine Memory :=
  (e.note (.taskFinished e.sample.clock)).saveFinish.record .taskFinished

/-- Finishes the task if it was not finished before. -/
def finishEdge (e : Engine Memory) (wasFinished : Bool) : Engine Memory :=
  if !wasFinished && e.situation.orderedTask.finished then e.finishTask else e

/-- The aircraft took off. The situation is kept in case that the task is never finished. -/
def takeOff (e : Engine Memory) : Engine Memory :=
  ((e.note (.takeoff e.sample.clock)).revise (.resetAirData false)).saveFinish.record .takeoff

def land (e : Engine Memory) : Engine Memory :=
  let noted := e.note (.landing e.sample.clock)
  (if noted.situation.orderedTask.finished then noted.restoreFinish else noted).record .landing

/-- Reacts to the start or the end of a flight. -/
def phaseEdge (e : Engine Memory) (wasFlying : Bool) : Engine Memory :=
  let flying := e.situation.flight.flying
  if flying && !wasFlying then e.takeOff
  else if !flying && wasFlying then e.land
  else e

end Soaring.Engine

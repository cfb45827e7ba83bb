import Soaring.Engine.Finish

/-!
The tick: one sample passes through all computations. Later steps read what earlier ones wrote, so
their order is part of the meaning. A tick never fails; what has no input stays as it was.
-/
namespace Soaring.Engine

variable {Memory : Type}

/-- What the calls of the current tick are told. -/
def feed (e : Engine Memory) : Feed := ⟨e.sample, e.settings⟩

/-- Takes in a sample: it becomes the current one, the local time follows it, and gates that are
too old at its clock are closed. -/
def accept (e : Engine Memory) (sample : Sample) : Engine Memory :=
  let timed := { e.situation with localTime := Situation.localTimeOf sample e.settings }
  { e with sample := sample, situation := timed.expire sample.clock }

/-- Progress along the task, and the finish if it was reached just now. -/
def followTask (e : Engine Memory) (force : Bool) : Engine Memory :=
  (e.revise (.taskBasics e.feed force)).finishEdge e.situation.orderedTask.finished

def updateBand (e : Engine Memory) : Engine Memory :=
  e.applyStatistics fun stats s =>
    { s with workingBand :=
        .compute s.terrain e.settings.task.safetyHeight e.sample.usableAltitude stats }

def updateTeam (e : Engine Memory) : Engine Memory :=
  let tracking := e.tracker.track e.cadence.teamCode e.feed e.waypoints e.situation.team
  { e.enter tracking.entries with
    tracker := tracking.tracker
    situation := { e.situation with team := tracking.team } }

/-- The trace history. It follows GPS time, and starts anew when that goes back. -/
def updateTrace (e : Engine Memory) : Engine Memory :=
  match e.sample.time with
  | none => e
  | some time =>
    let (clock, step) := e.traceClock.feed time e.cadence.trace
    let e := { e with traceClock := clock }
    match step with
    | .pending => e
    | .elapsed _ =>
      { e with situation := { e.situation with trace := e.situation.trace.append e.sample } }
    | .warp =>
      { e.note .timeWarp with situation := { e.situation with trace := .empty } }

def updateScale (e : Engine Memory) : Engine Memory :=
  e.applyStatistics fun stats s => { s with varioScale := .compute e.settings.polar stats }

def updateFuel (e : Engine Memory) : Engine Memory :=
  { e with situation := { e.situation with
      fuel := e.situation.fuel.update e.settings.plane e.sample.clock } }

def checkIdle (e : Engine Memory) : Engine Memory × Bool :=
  let (clock, due) := e.idleClock.checkAfterStart e.sample.clock e.cadence.idle
  ({ e with idleClock := clock }, due)

/-- The computations of a tick, up to the flight phase. -/
def derive (e : Engine Memory) (sample : Sample) (force : Bool) : Engine Memory :=
  let e := e.accept sample
  let feed := e.feed
  (e.revise (.airBasics feed)).followTask force
    |>.updateBand
    |>.revise (.taskMore feed force)
    |>.revise (.taskAuto feed force)
    |>.revise (.airVertical feed)
    |>.observe (.climbEvents sample)
    |>.revise (.cruise feed)
    |>.updateTeam
    |>.updateTrace
    |>.updateScale
    |>.observe (.monitors feed)
    |>.updateFuel
    |>.revise (.flightPhase feed)

/-- Processes one sample and reports whether an idle pass is due. With `force` the task manager is
told to ignore its own limits of frequency. -/
def tick (e : Engine Memory) (sample : Sample) (force : Bool) : Engine Memory × Bool :=
  ((e.derive sample force).phaseEdge e.situation.flight.flying).checkIdle

end Soaring.Engine

import Soaring.Situation.Expiry

/-!
The instruments that the engine drives: air data, task manager, statistics, airspace warnings,
condition monitors, flight recorder, track sampler and cruise computer. Their numerics lie outside
the engine. All of them together are one deterministic machine with a private memory, so they may
share state or not; what matters is which parts of the situation a call hands to them and takes
back.
-/
namespace Soaring

/-- What a call is told about the current tick. -/
structure Feed where
  sample : Sample
  settings : Settings

/-- Calls that may change the situation. -/
inductive Revision where
  /-- Altitude, vertical speed and terrain. -/
  | airBasics (feed : Feed)
  /-- Wind, energy height and whatever else builds on the basics. -/
  | airVertical (feed : Feed)
  /-- Whether the aircraft flies. -/
  | flightPhase (feed : Feed)
  /-- Progress along the task. -/
  | taskBasics (feed : Feed) (force : Bool)
  /-- Task statistics that need the working band. -/
  | taskMore (feed : Feed) (force : Bool)
  /-- Automatic advance and MacCready value. -/
  | taskAuto (feed : Feed) (force : Bool)
  /-- Slow task computations. -/
  | taskIdle (feed : Feed) (exhaustive : Bool)
  /-- Cruise computations. -/
  | cruise (feed : Feed)
  /-- The air data of a flight are dropped, with `full` also those that outlast it. -/
  | resetAirData (full : Bool)

/-- Calls that see the situation and write nothing back. -/
inductive Observation where
  /-- Climbs and thermals enter the statistics. -/
  | climbEvents (sample : Sample)
  /-- The statistics log is continued. -/
  | statisticsLog (sample : Sample)
  /-- Alerts of the tick. -/
  | monitors (feed : Feed)
  /-- Alerts of the idle pass. -/
  | idleMonitors (feed : Feed)
  /-- The flight recorder takes a fix if one is due. -/
  | recorder (feed : Feed)

/-- Calls that do not see the situation. -/
inductive Notice where
  | restartAirStatistics
  | resetTask (full : Bool)
  | startStatistics (sample : Sample)
  | resetStatistics (full : Bool)
  | resetWarnings
  | startRecorder (sample : Sample)
  | fastRecording
  | resetRecorder
  | trackPoint (location : Geo.Point)
  | resetTrack
  | resetCruise

/-- The instruments, over a private memory. -/
structure Instruments (Memory : Type) where
  /-- Changes the situation. -/
  revise : Revision → Situation → Memory → Situation × Memory
  /-- Takes note of the situation. -/
  observe : Observation → Situation → Memory → Memory
  /-- Works out the airspace warnings, with `exhaustive` more thoroughly. -/
  warn : Feed → (exhaustive : Bool) → Situation → Memory → AirspaceWarnings × Memory
  /-- Takes note of a change of the flight or task. -/
  notify : Notice → Memory → Memory
  /-- Reads the statistics. -/
  statistics : Memory → Statistics

/-- Instruments that do nothing. The statistics are those of an empty flight. -/
def Instruments.none : Instruments Unit where
  revise _ situation memory := (situation, memory)
  observe _ _ memory := memory
  warn _ _ situation memory := (situation.warnings, memory)
  notify _ memory := memory
  statistics _ := {}

/-- A call that was made, with the situation that it saw. -/
inductive Call where
  | revision (revision : Revision) (seen : Situation)
  | observation (observation : Observation) (seen : Situation)
  | warnings (feed : Feed) (exhaustive : Bool) (seen : Situation)
  | notice (notice : Notice)
  | statistics

end Soaring

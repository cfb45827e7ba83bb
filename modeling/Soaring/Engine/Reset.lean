import Soaring.Engine.Basic

/-!
Resets and the construction of an engine, which is a full reset of one that has done nothing.
-/
namespace Soaring.Engine

variable {Memory : Type}

/-- Forgets the flight in the engine's own state: its part of the situation or, with `full`, all of
it, and the finish. -/
def clearSituation (e : Engine Memory) (full : Bool) : Engine Memory :=
  { e with
    situation := e.situation.reset full
    finish := none }

def resetInstruments (e : Engine Memory) (full : Bool) : Engine Memory :=
  (e.revise (.resetAirData full))
    |>.notify (.resetTask full)
    |>.notify (.resetStatistics full)
    |>.notify .resetRecorder
    |>.notify .resetTrack
    |>.notify .resetCruise
    |>.notify .resetWarnings

/-- Forgets the clocks: that of the trace and, with `full`, the throttle of the own code. -/
def resetClocks (e : Engine Memory) (full : Bool) : Engine Memory :=
  { e with
    traceClock := .unset
    tracker := if full then e.tracker.resetThrottle else e.tracker }

/-- Prepares for a new flight. With `full` also what outlasts a flight is forgotten. Settings,
waypoints, the cached reference, the last sample, the idle clock and waiting events stay. -/
def resetFlight (e : Engine Memory) (full : Bool) : Engine Memory :=
  ((e.clearSituation full).resetInstruments full).resetClocks full

/-- An engine in the fully reset state, which announces that it is ready. -/
def powerUp (instruments : Instruments Memory) (memory : Memory) (settings : Settings)
    (cadence : Cadence) (waypoints : WaypointSource) : Engine Memory :=
  let fresh : Engine Memory :=
    { instruments := instruments
      memory := memory
      settings := settings
      cadence := cadence
      waypoints := waypoints }
  (fresh.resetFlight true).record .ready

end Soaring.Engine

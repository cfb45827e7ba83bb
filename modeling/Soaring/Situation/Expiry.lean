import Soaring.Clock.Units
import Soaring.Situation.Basic

/-!
Expiry: before a sample is processed, every gate that is too old is closed. A consumer that finds a
gate valid may then use the value without knowing how old it may be.
-/
namespace Soaring

inductive Gated where
  | estimatedWind
  | wind
  | pressure
  | headWind
  | sun
  | autoMacCready
  | climb
  | airspaceWarnings
  | wave
  | fuel
  | ownCode
  deriving DecidableEq

def Gated.all : List Gated :=
  [.estimatedWind, .wind, .pressure, .headWind, .sun, .autoMacCready, .climb, .airspaceWarnings,
    .wave, .fuel, .ownCode]

/-- How old a value may be, in milliseconds of the sample clock. -/
def Gated.maxAge : Gated → Nat
  | estimatedWind => msPerHour
  | wind => msPerHour
  | pressure => msPerHour
  | headWind => 3 * msPerSecond
  | sun => msPerHour
  | autoMacCready => 5 * msPerMinute
  | climb => 5 * msPerSecond
  | airspaceWarnings => msPerMinute
  | wave => 10 * msPerMinute
  | fuel => 10 * msPerSecond
  | ownCode => 30 * msPerSecond

namespace Situation

def gate (s : Situation) : Gated → Gate
  | .estimatedWind => s.wind.estimateAvailable
  | .wind => s.wind.windAvailable
  | .pressure => s.atmosphere.pressureAvailable
  | .headWind => s.wind.headWindAvailable
  | .sun => s.atmosphere.sunAvailable
  | .autoMacCready => s.atmosphere.autoMacCreadyAvailable
  | .climb => s.climb.available
  | .airspaceWarnings => s.warnings.latest
  | .wave => s.wave.available
  | .fuel => s.fuel.available
  | .ownCode => s.team.ownCodeAvailable

def mapGates (s : Situation) (change : Gated → Gate → Gate) : Situation :=
  { s with
    climb := { s.climb with available := change .climb s.climb.available }
    wind := { s.wind with
      estimateAvailable := change .estimatedWind s.wind.estimateAvailable
      windAvailable := change .wind s.wind.windAvailable
      headWindAvailable := change .headWind s.wind.headWindAvailable }
    atmosphere := { s.atmosphere with
      pressureAvailable := change .pressure s.atmosphere.pressureAvailable
      sunAvailable := change .sun s.atmosphere.sunAvailable
      autoMacCreadyAvailable := change .autoMacCready s.atmosphere.autoMacCreadyAvailable }
    team := { s.team with ownCodeAvailable := change .ownCode s.team.ownCodeAvailable }
    fuel := { s.fuel with available := change .fuel s.fuel.available }
    warnings := { s.warnings with latest := change .airspaceWarnings s.warnings.latest }
    wave := { s.wave with available := change .wave s.wave.available } }

theorem gate_mapGates (s : Situation) (change : Gated → Gate → Gate) (value : Gated) :
    (s.mapGates change).gate value = change value (s.gate value) := by
  cases value <;> rfl

def dropStaleOwnCode (s : Situation) : Situation :=
  if s.team.ownCodeAvailable.isValid then s
  else { s with team := { s.team with ownCode := none } }

/-- Closes the gates of values that are too old at the given time. -/
def expire (s : Situation) (now : Stamp) : Situation :=
  (s.mapGates fun value gate => gate.expire now value.maxAge).dropStaleOwnCode

end Situation

end Soaring

import Soaring.Clock.Units
import Soaring.Team.Code
import Soaring.Traffic
import Soaring.Waypoint

/-!
The pilot's settings and the engine's intervals, with the checks that keep unusable values out.
-/
namespace Soaring

/-- Who the team mate is, and what team codes refer to. -/
structure TeamSettings where
  /-- The waypoint that all team codes are relative to. -/
  reference : Option WaypointId := none
  /-- The contact to follow; it counts before the code. -/
  flarm : Option FlarmId := none
  /-- The team mate's code as typed by the pilot. -/
  code : Option Team.Code := none
  deriving DecidableEq

/-- Takes over the text of a team code; an empty one clears the code. A text that is no code changes
nothing. -/
def TeamSettings.setCodeText (s : TeamSettings) (typed : List Char) : Except Error TeamSettings :=
  let kept := Text.trim typed
  if kept.isEmpty then .ok { s with code := none }
  else (Team.Code.parse kept).map fun code => { s with code := some code }

/-- The settings after a code was typed, and the answer. A refused code leaves them as they are. -/
def TeamSettings.enterCode (s : TeamSettings) (typed : List Char) :
    TeamSettings × Except Error Unit :=
  match s.setCodeText typed with
  | .ok changed => (changed, .ok ())
  | .error error => (s, .error error)

/-- Margins of task flying. -/
structure TaskSettings where
  /-- Least height above terrain to arrive with, in metres. -/
  safetyHeight : Float := 300.0
  deriving BEq

structure PlaneSettings where
  /-- Litres on board. -/
  fuelOnboard : Float := 0.0
  /-- Litres per hour with the engine running; zero for pure gliders. -/
  fuelConsumption : Float := 0.0
  deriving BEq

/-- The glide polar as currently set. -/
structure PolarSettings where
  /-- MacCready value in metres per second. -/
  macCready : Float := 0.0
  /-- Sink rate at best glide in metres per second, positive down. -/
  bestGlideSink : Float := 0.6
  deriving BEq

/-- Seconds between two fixes of the flight logger. -/
structure LoggerSettings where
  cruiseStep : UInt16 := 5
  circlingStep : UInt16 := 1
  deriving DecidableEq

/-- Everything that the pilot sets. -/
structure Settings where
  /-- Local time less UTC, in minutes. -/
  utcOffset : Int32 := 0
  team : TeamSettings := {}
  task : TaskSettings := {}
  plane : PlaneSettings := {}
  polar : PolarSettings := {}
  logger : LoggerSettings := {}
  deriving BEq

/-- The largest distance of a time zone from UTC, in minutes. -/
def maxUtcOffset : Nat := 14 * minutesPerHour

namespace Settings

def numeric (s : Settings) : NumericSetting → Float
  | .safetyHeight => s.task.safetyHeight
  | .fuelOnboard => s.plane.fuelOnboard
  | .fuelConsumption => s.plane.fuelConsumption
  | .macCready => s.polar.macCready
  | .bestGlideSink => s.polar.bestGlideSink

/-- The numeric settings in the order in which they are checked. -/
def checkedNumbers : List NumericSetting :=
  [.safetyHeight, .fuelOnboard, .fuelConsumption, .macCready, .bestGlideSink]

/-- The first fault of the settings, if they have one. -/
def fault? (s : Settings) : Option SettingFault :=
  -- The smallest word has no absolute value of its own and passes for small.
  if Int32.ofNat maxUtcOffset < s.utcOffset.abs then some .offsetTooLarge
  else match checkedNumbers.find? fun setting => !(s.numeric setting).isFinite with
    | some setting => some (.notFinite setting)
    | none =>
      if s.logger.cruiseStep = 0 || s.logger.circlingStep = 0 then some .loggerStepZero else none

/-- Accepts settings that the engine can work with. -/
def validate (s : Settings) : Except Error Unit :=
  match s.fault? with
  | some fault => .error (.invalidSetting fault)
  | none => .ok ()

end Settings

/-- The engine's intervals in milliseconds. -/
structure Cadence where
  /-- Between two announcements that an idle pass is due, on the sample clock. -/
  idle : Nat := 500
  /-- Between two computations of the own team code, on the sample clock. -/
  teamCode : Nat := 10 * msPerSecond
  /-- Between two entries of the trace history, in GPS time. -/
  trace : Nat := 500
  deriving DecidableEq

namespace Cadence

def length (c : Cadence) : Interval → Nat
  | .idle => c.idle
  | .teamCode => c.teamCode
  | .trace => c.trace

/-- Accepts intervals none of which is zero. -/
def validate (c : Cadence) : Except Error Unit :=
  match [Interval.idle, .teamCode, .trace].find? fun interval => c.length interval = 0 with
  | some interval => .error (.invalidSetting (.intervalZero interval))
  | none => .ok ()

end Cadence

end Soaring

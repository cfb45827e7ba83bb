/-!
The reasons for which configuration and store operations are refused. Processing a sample has none:
a missing input leaves what depends on it as it was.
-/
namespace Soaring

/-- The numeric settings that must be finite. -/
inductive NumericSetting where
  | safetyHeight
  | fuelOnboard
  | fuelConsumption
  | macCready
  | bestGlideSink
  deriving DecidableEq

def NumericSetting.name : NumericSetting → String
  | safetyHeight => "task.safety_height_arrival"
  | fuelOnboard => "plane.fuel_onboard"
  | fuelConsumption => "plane.fuel_consumption"
  | macCready => "polar.mc"
  | bestGlideSink => "polar.sink_at_best_ld"

/-- The intervals of the engine, none of which may be zero. -/
inductive Interval where
  | idle
  | teamCode
  | trace
  deriving DecidableEq

def Interval.name : Interval → String
  | idle => "idle_interval_ms"
  | teamCode => "team_code_interval_ms"
  | trace => "trace_min_delta_ms"

inductive SettingFault where
  /-- Local time is further from UTC than any time zone. -/
  | offsetTooLarge
  | notFinite (setting : NumericSetting)
  /-- A logger cadence of no seconds. -/
  | loggerStepZero
  | intervalZero (interval : Interval)
  deriving DecidableEq

def SettingFault.name : SettingFault → String
  | offsetTooLarge => "utc_offset_minutes"
  | notFinite setting => setting.name
  | loggerStepZero => "logger"
  | intervalZero interval => interval.name

def SettingFault.reason : SettingFault → String
  | offsetTooLarge => "offset beyond +/-14 hours"
  | notFinite _ => "value must be finite"
  | loggerStepZero => "logger time step must be at least one second"
  | intervalZero _ => "interval must be non-zero"

inductive TeamCodeFault where
  | wrongLength
  | notAlphanumeric
  deriving DecidableEq

def TeamCodeFault.reason : TeamCodeFault → String
  | wrongLength => "team code must be 5 characters"
  | notAlphanumeric => "team code must be alphanumeric"

/-- A refused operation. -/
inductive Error where
  | invalidSetting (fault : SettingFault)
  | invalidTeamCode (fault : TeamCodeFault)
  /-- A store with room for `capacity` entries is full. -/
  | capacityExceeded (capacity : Nat)
  /-- A number is NaN or infinite. -/
  | invalidValue
  deriving DecidableEq

/-- The message shown to the pilot. -/
def Error.message : Error → String
  | invalidSetting fault => "Invalid setting " ++ fault.name ++ ": " ++ fault.reason
  | invalidTeamCode fault => "Invalid team code: " ++ fault.reason
  | capacityExceeded capacity =>
    "Capacity exceeded: store holds at most " ++ toString capacity ++ " entries"
  | invalidValue => "Invalid value: not a valid number"

end Soaring

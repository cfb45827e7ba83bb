import Soaring.Clock.Units

/-!
Times of day in whole seconds. Shifting one by minutes wraps around midnight.
-/
namespace Soaring.Calendar

/-- Hour, minute and second as a receiver reports them, not checked. -/
structure TimeOfDay where
  hour : UInt8
  minute : UInt8
  second : UInt8
  deriving DecidableEq, Inhabited

namespace TimeOfDay

def zero : TimeOfDay := ⟨0, 0, 0⟩

/-- The time of day of a second count; whole days are taken away, before and after midnight. -/
def ofSecond (seconds : Int) : TimeOfDay :=
  let rest := (seconds % secondsPerDay).toNat
  { hour := (rest / secondsPerHour).toUInt8
    minute := (rest / secondsPerMinute % minutesPerHour).toUInt8
    second := (rest % secondsPerMinute).toUInt8 }

def toSecond (t : TimeOfDay) : Int :=
  (t.hour.toNat * secondsPerHour + t.minute.toNat * secondsPerMinute + t.second.toNat : Nat)

def isPlausible (t : TimeOfDay) : Bool :=
  t.hour < 24 && t.minute < 60 && t.second < 60

/-- The time of day some minutes later, or earlier if the number is negative. -/
def shift (t : TimeOfDay) (minutes : Int) : TimeOfDay :=
  ofSecond (t.toSecond + minutes * secondsPerMinute)

end TimeOfDay

end Soaring.Calendar

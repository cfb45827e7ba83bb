/-!
Units of time. Stamps and intervals of the engine are counted in milliseconds.
-/
namespace Soaring

def msPerSecond : Nat := 1000

def secondsPerMinute : Nat := 60

def minutesPerHour : Nat := 60

def secondsPerHour : Nat := secondsPerMinute * minutesPerHour

/-- The seconds of a day, around which times of day wrap. -/
def secondsPerDay : Nat := 24 * secondsPerHour

def msPerMinute : Nat := msPerSecond * secondsPerMinute

def msPerHour : Nat := msPerMinute * minutesPerHour

end Soaring

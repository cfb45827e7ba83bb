import Soaring.Calendar.DateTime
import Soaring.Clock.Gate
import Soaring.Traffic

/-!
Samples: what the sensors reported at one time. Every measured quantity may be missing, and nothing
is put in its place.
-/
namespace Soaring

/-- The attitude of the aircraft in degrees, as far as it is measured. -/
structure Attitude where
  /-- Positive with the right wing down. -/
  bank : Option Float := none
  /-- Positive with the nose up. -/
  pitch : Option Float := none
  /-- Magnetic. -/
  heading : Option Float := none
  deriving BEq

structure RecorderStatus where
  connected : Bool := false
  recording : Bool := false
  deriving DecidableEq

/-- The input of one tick. -/
structure Sample where
  /-- The sample clock, which is always there. -/
  clock : Stamp := 0
  /-- GPS time. -/
  time : Option Stamp := none
  utc : Calendar.DateTime := .invalid
  location : Option Geo.Point := none
  /-- The best altitude for navigation, in metres above sea level. -/
  altitude : Option Float := none
  /-- Vertical speed by total energy, in metres per second. -/
  bruttoVario : Option Float := none
  /-- Vertical speed of the air mass, in metres per second. -/
  nettoVario : Option Float := none
  attitude : Attitude := {}
  traffic : Traffic := .empty
  recorder : RecorderStatus := {}
  deriving BEq

def Sample.timeAvailable (s : Sample) : Bool := s.time.isSome

/-- The navigation altitude, if it is known and finite. -/
def Sample.usableAltitude (s : Sample) : Option Float := s.altitude.filter Float.isFinite

end Soaring

import Soaring.Clock.Duration
import Soaring.Clock.Gate
import Soaring.Clock.Units
import Soaring.Settings
import Soaring.Situation.Air

/-!
Ranges of displays and the fuel estimate. They follow from statistics, settings and the current
sample, and are computed anew on every tick.
-/
namespace Soaring

open Soaring.Numeric (larger smaller)

/-- The flight statistics that displays are scaled by. -/
structure Statistics where
  /-- Lowest and highest altitude worked in, in metres. -/
  minWorkingHeight : Float := 0.0
  maxWorkingHeight : Float := 0.0
  /-- Strongest climb and strongest sink, in metres per second. -/
  strongestClimb : Float := 0.0
  strongestSink : Float := 0.0
  deriving BEq

/-- The altitudes that the pilot works in. -/
structure WorkingBand where
  low : Float := 0.0
  high : Float := 0.0
  /-- Where the aircraft is between them, zero at the bottom and one at the top. -/
  fraction : Float := 1.0
  deriving BEq

namespace WorkingBand

/-- Where an altitude lies in the band. A band without extent reports its top, as does an altitude
that is no number. -/
def fractionAt (b : WorkingBand) (altitude : Float) : Float :=
  let span := b.high - b.low
  if 0.0 < span && altitude.isFinite then
    Numeric.clamp 0.0 1.0 ((altitude - b.low) / span)
  else 1.0

/-- The lower bound: the lowest altitude worked in, zero if that is no finite number. -/
def statisticsLow (stats : Statistics) : Float :=
  if stats.minWorkingHeight.isFinite then stats.minWorkingHeight else 0.0

/-- The lower bound, not below the safety height over known terrain. -/
def lowBound (terrain : Terrain) (safetyHeight : Float) (stats : Statistics) : Float :=
  let low := statisticsLow stats
  let floor := terrain.baseOrAltitude + safetyHeight
  if terrain.baseValid && floor.isFinite then larger low floor else low

/-- The band of a sample, widened so that it holds the sample's altitude. -/
def compute (terrain : Terrain) (safetyHeight : Float) (altitude : Option Float)
    (stats : Statistics) : WorkingBand :=
  let low := lowBound terrain safetyHeight stats
  let high := larger low stats.maxWorkingHeight
  match altitude with
  | none => { low := low, high := high }
  | some altitude =>
    let band : WorkingBand := { low := low, high := larger high altitude }
    { band with fraction := band.fractionAt altitude }

end WorkingBand

/-- The ends of the vario gauge, in metres per second. -/
structure VarioScale where
  positive : Float := 0.0
  negative : Float := 0.0
  deriving BEq

/-- The gauge covers what was flown, the MacCready value and the sink rate at best glide. -/
def VarioScale.compute (polar : PolarSettings) (stats : Statistics) : VarioScale :=
  { positive := larger stats.strongestClimb polar.macCready
    negative := smaller stats.strongestSink (-polar.bestGlideSink) }

/-- How long the fuel lasts. -/
structure Fuel where
  /-- Only to be used while `available` is valid. -/
  burnTime : Duration := .zero
  available : Gate := .closed
  deriving DecidableEq

namespace Fuel

/-- The estimate, unless it is missing or too old. -/
def remaining (f : Fuel) : Option Duration :=
  if f.available.isValid then some f.burnTime else none

/-- The gap between one and the next double. Consumptions up to it count as none. -/
def leastConsumption : Float := Float.ofBits 0x3CB0000000000000

/-- The burn time of the fuel on board. A pure glider has none, nor has a negative consumption or a
time that no duration can hold. -/
def estimate? (plane : PlaneSettings) : Option Duration :=
  let consumption := plane.fuelConsumption
  if consumption < 0.0 || consumption.abs ≤ leastConsumption then none
  else Duration.ofSeconds? (plane.fuelOnboard / consumption * Float.ofNat secondsPerHour)

/-- Takes over the estimate. If there is none, the last one stays until its gate closes. -/
def update (f : Fuel) (plane : PlaneSettings) (now : Stamp) : Fuel :=
  match estimate? plane with
  | some burnTime => { burnTime := burnTime, available := .updatedAt now }
  | none => f

end Fuel

end Soaring

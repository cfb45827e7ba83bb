import Soaring.Clock.Gate
import Soaring.Geo.Point

/-!
What the air-data and warning instruments have worked out. The engine takes these groups as they
are, apart from the gates, which it closes when they are too old.
-/
namespace Soaring

/-- Whether the aircraft flies, and since when. -/
structure Flight where
  /-- Airborne. -/
  flying : Bool := false
  /-- Confirmed to be on the ground. -/
  onGround : Bool := false
  /-- Milliseconds in which flight conditions were seen. -/
  timeInFlight : Nat := 0
  /-- Milliseconds in which ground conditions were seen. -/
  timeOnGround : Nat := 0
  takeoffTime : Option Stamp := none
  takeoffLocation : Option Geo.Point := none
  landingTime : Option Stamp := none
  landingLocation : Option Geo.Point := none
  deriving BEq

/-- The time since takeoff while airborne; none before it. -/
def Flight.duration (f : Flight) (now : Stamp) : Option Nat :=
  if f.flying then f.takeoffTime.map (now - ·) else none

/-- Climb rates and averages, in metres and seconds. -/
structure Climb where
  gpsVario : Float := 0.0
  average : Float := 0.0
  thermalAverage : Float := 0.0
  thermalGain : Float := 0.0
  available : Gate := .closed
  deriving BEq

structure Circling where
  circling : Bool := false
  /-- Turning, but not yet for long enough. -/
  turning : Bool := false
  /-- Degrees per second, positive to the right. -/
  turnRate : Float := 0.0
  climbStart : Option Stamp := none
  cruiseStart : Option Stamp := none
  deriving BEq

/-- Marks the start of the task in the mode that the aircraft is in. -/
def Circling.startTask (c : Circling) (now : Stamp) : Circling :=
  if c.circling then { c with climbStart := some now } else { c with cruiseStart := some now }

/-- A wind, by its speed and the direction that it blows from. -/
structure WindVector where
  speed : Float := 0.0
  bearing : Float := 0.0
  deriving BEq

structure Wind where
  estimate : WindVector := {}
  estimateAvailable : Gate := .closed
  /-- The wind in use, estimated or set by hand. -/
  wind : WindVector := {}
  windAvailable : Gate := .closed
  /-- The component against the track. -/
  headWind : Float := 0.0
  headWindAvailable : Gate := .closed
  deriving BEq

/-- Slowly changing values of the atmosphere. -/
structure Atmosphere where
  /-- Pressure at sea level in hectopascals. -/
  pressure : Float := 0.0
  pressureAvailable : Gate := .closed
  sunAzimuth : Float := 0.0
  sunAvailable : Gate := .closed
  /-- The MacCready value chosen automatically. -/
  autoMacCready : Float := 0.0
  autoMacCreadyAvailable : Gate := .closed
  deriving BEq

/-- Terrain below and ahead, in metres. -/
structure Terrain where
  altitudeValid : Bool := false
  baseValid : Bool := false
  heightValid : Bool := false
  /-- Elevation below the aircraft. -/
  altitude : Float := 0.0
  /-- The lowest terrain within glide range. -/
  base : Float := 0.0
  /-- Height of the aircraft above terrain. -/
  height : Float := 0.0
  /-- Where the glide path first meets terrain. -/
  warningLocation : Option Geo.Point := none
  deriving BEq

/-- The terrain base if it is known, else the elevation below the aircraft. -/
def Terrain.baseOrAltitude (t : Terrain) : Float := if t.baseValid then t.base else t.altitude

structure AirspaceWarnings where
  active : UInt16 := 0
  acknowledged : UInt16 := 0
  /-- The last change of the warnings. -/
  latest : Gate := .closed
  deriving DecidableEq

/-- A warning waits to be acknowledged. -/
def AirspaceWarnings.hasPending (w : AirspaceWarnings) : Bool :=
  w.latest.isValid && w.acknowledged < w.active

structure Wave where
  /-- The number of lift bands found. -/
  count : UInt8 := 0
  bestLift : Float := 0.0
  available : Gate := .closed
  deriving BEq

end Soaring

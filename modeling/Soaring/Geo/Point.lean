import Soaring.Numeric.Direction
import Soaring.Numeric.Trig

/-!
Points on a spherical Earth. Team work spans a few tens of kilometres, over which the sphere is far
more accurate than the hundred metres that a team code resolves.
-/
namespace Soaring.Geo

open Soaring.Numeric

/-- The radius of the sphere in metres. -/
def earthRadius : Float := 6371000.0

/-- A location in decimal degrees. -/
structure Point where
  /-- Positive to the north. -/
  latitude : Float
  /-- Positive to the east. -/
  longitude : Float
  deriving BEq

/-- Distance in metres and initial course in degrees from one point to another. -/
structure Course where
  distance : Float
  bearing : Float
  deriving BEq

/-- Both coordinates are numbers in their range. -/
def Point.isValid (p : Point) : Bool :=
  p.latitude.isFinite && p.longitude.isFinite && p.latitude.abs ≤ 90.0 && p.longitude.abs ≤ 180.0

/-- Brings a longitude into the turn that starts at the date line. -/
def normalizeLongitude (degrees : Float) : Float :=
  let rest := remTrunc (degrees + 540.0) 360.0 - 180.0
  if rest < -180.0 then rest + 360.0 else rest

/-- The way from one point to another: the haversine distance and the initial great-circle
course. -/
def Point.courseTo (start target : Point) : Course :=
  let lat1 := toRadians start.latitude
  let lat2 := toRadians target.latitude
  let dlat := lat2 - lat1
  let dlon := toRadians (target.longitude - start.longitude)
  let sinLat := sin (dlat / 2.0)
  let sinLon := sin (dlon / 2.0)
  let a := sinLat * sinLat + cos lat1 * cos lat2 * sinLon * sinLon
  let c := 2.0 * atan2 a.sqrt (1.0 - a).sqrt
  let y := sin dlon * cos lat2
  let x := cos lat1 * sin lat2 - sin lat1 * cos lat2 * cos dlon
  { distance := earthRadius * c
    bearing := normalizeBearing (toDegrees (atan2 y x)) }

/-- The point reached from another by a great-circle course over a distance in metres. -/
def Point.destination (start : Point) (bearing distance : Float) : Point :=
  let lat1 := toRadians start.latitude
  let lon1 := toRadians start.longitude
  let course := toRadians bearing
  let delta := distance / earthRadius
  let lat2 := asin (sin lat1 * cos delta + cos lat1 * sin delta * cos course)
  let lon2 := lon1 +
    atan2 (sin course * sin delta * cos lat1) (cos delta - sin lat1 * sin lat2)
  { latitude := toDegrees lat2
    longitude := normalizeLongitude (toDegrees lon2) }

end Soaring.Geo

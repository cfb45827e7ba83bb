import Soaring.Geo.Point
import Soaring.Store.Bounded
import Soaring.Text.Octets

/-!
Waypoints, of which the engine needs one: the reference of all team codes. It looks it up by its
id and never changes the store.
-/
namespace Soaring

structure WaypointId where
  value : UInt32
  deriving DecidableEq, Inhabited

/-- A stored id; numbers that no id takes, negative ones above all, mean that there is none. -/
def WaypointId.ofRaw? (raw : Int) : Option WaypointId :=
  if 0 ≤ raw ∧ raw < UInt32.size then some ⟨raw.toNat.toUInt32⟩ else none

/-- The bytes that a name may take. -/
def maxNameBytes : Nat := 32

structure Waypoint where
  id : WaypointId
  name : String
  location : Geo.Point
  deriving BEq

/-- A waypoint whose name is cut to what fits. -/
def Waypoint.named (id : WaypointId) (name : String) (location : Geo.Point) : Waypoint :=
  { id := id
    name := String.ofList (Text.fitting maxNameBytes name.toList)
    location := location }

instance : Keyed Waypoint WaypointId where
  key := Waypoint.id

def maxWaypoints : Nat := 256

abbrev Waypoints := Bounded Waypoint maxWaypoints

/-- Any store of waypoints, as the engine sees it. -/
abbrev WaypointSource := WaypointId → Option Waypoint

/-- The store in memory as the engine sees it. -/
def Waypoints.source (store : Waypoints) : WaypointSource := store.find?

end Soaring

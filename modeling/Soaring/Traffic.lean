import Soaring.Geo.Point
import Soaring.Store.Bounded

/-!
Traffic contacts from the collision-avoidance receiver, told apart by their device addresses.
-/
namespace Soaring

/-- The stable address of a device. -/
structure FlarmId where
  value : UInt32
  deriving DecidableEq, Inhabited

namespace FlarmId

/-- The largest address of 24 binary digits. -/
def maxValue : UInt32 := 0xFFFFFF

/-- A device address as configured or received; zero means that there is none. -/
def ofRaw? (raw : UInt32) : Option FlarmId :=
  if raw = 0 || maxValue < raw then none else some ⟨raw⟩

/-- The address in hexadecimal digits, at least six of them. -/
def text (id : FlarmId) : String :=
  let digits := (Nat.toDigits 16 id.value.toNat).map Char.toUpper
  String.ofList (List.replicate (6 - digits.length) '0' ++ digits)

end FlarmId

/-- A contact. A receiver that knows only its direction reports no location. -/
structure Contact where
  id : FlarmId
  location : Option Geo.Point
  deriving BEq

instance : Keyed Contact FlarmId where
  key := Contact.id

def maxTraffic : Nat := 32

abbrev Traffic := Bounded Contact maxTraffic

end Soaring

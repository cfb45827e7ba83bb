import Soaring.Clock.Gate
import Soaring.Team.Code

/-!
What is known of the team: the own code to be read out, and the team mate's position.
-/
namespace Soaring

structure TeamView where
  /-- `mateCourse` and `mateLocation` may be used. -/
  mateAvailable : Bool := false
  /-- The position that codes are relative to. -/
  reference : Option Geo.Point := none
  mateLocation : Option Geo.Point := none
  /-- The way from the own position to the team mate. -/
  mateCourse : Option Geo.Course := none
  ownCode : Option Team.Code := none
  /-- The last computation of `ownCode`. -/
  ownCodeAvailable : Gate := .closed
  peerCode : Option Team.Code := none
  /-- `peerCode` belongs to the current sample. -/
  peerCodeCurrent : Bool := false
  deriving BEq

/-- Marks the team mate as gone and drops its code. -/
def TeamView.clearMate (t : TeamView) : TeamView :=
  { t with mateAvailable := false, peerCode := none, peerCodeCurrent := false }

end Soaring

import Soaring.Proofs.Engine.Operations
import Soaring.Proofs.Situation.Expiry

/-!
The order and the dataflow of a tick. Towards the instruments a tick is a list of stages: calls, and
changes of the situation that the engine makes between them. Notes, events, snapshots and clocks do
not show there, so folding the stages over the situation and the memory with which the tick begins
gives all its calls, each with the situation that it sees. Only a takeoff adds a call.
-/
namespace Soaring

def Entry.call? : Entry → Option Call
  | .call made => some made
  | _ => none

namespace Engine

variable {Memory : Type}

/-- The calls that the current operation has made, in order. -/
def calls (e : Engine Memory) : List Call := e.journal.filterMap Entry.call?

end Engine

end Soaring

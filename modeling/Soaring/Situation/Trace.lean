import Soaring.Sample
import Soaring.Store.Ring

/-!
The short history of samples behind trend displays.
-/
namespace Soaring

/-- One recorded sample. -/
structure TraceEntry where
  /-- GPS time. -/
  time : Stamp
  bruttoVario : Option Float
  nettoVario : Option Float
  altitude : Option Float
  deriving BEq

/-- The entry of a sample that carries GPS time. -/
def TraceEntry.ofSample (s : Sample) (time : Stamp) : TraceEntry :=
  { time := time
    bruttoVario := s.bruttoVario
    nettoVario := s.nettoVario
    altitude := s.usableAltitude }

def traceSize : Nat := 30

/-- The last entries, oldest first. -/
abbrev Trace := Ring TraceEntry traceSize

namespace Trace

def empty : Trace := Ring.empty

/-- Records a sample; one without GPS time is left out. -/
def append (t : Trace) (s : Sample) : Trace :=
  match s.time with
  | some time => t.push (.ofSample s time)
  | none => t

/-- The mean of the recorded vertical speeds by total energy, over the entries that have one. -/
def averageBrutto (t : Trace) : Option Float :=
  let speeds := t.toList.filterMap TraceEntry.bruttoVario
  if speeds.isEmpty then none
  else some (speeds.foldl (· + ·) 0.0 / Float.ofNat speeds.length)

end Trace

end Soaring

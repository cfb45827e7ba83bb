import Soaring.Clock.Delta
import Soaring.Proofs.Situation.Clearing
import Soaring.Proofs.Store.Ring
import Soaring.Team.Tracker

/-!
Flights that are flown later. A delay moves the stamps of the sample clock by one amount and GPS
times by another. Clocks, gates and the computations of the engine compare stamps of one kind with
each other and with nothing else, so each of them commutes with delays.
-/
namespace Soaring

/-- How much later a flight is flown, by the sample clock and by GPS time. -/
structure Delay where
  clock : Nat
  time : Nat

def laterStamp (span : Nat) (stamp : Option Stamp) : Option Stamp := stamp.map (· + span)

namespace Gate

/-- The gate of a value that was written later. -/
def later (g : Gate) (span : Nat) : Gate := ⟨laterStamp span g.stamp⟩

theorem isValid_later (g : Gate) (span : Nat) : (g.later span).isValid = g.isValid :=
  Option.isSome_map

/-- Freshness is a matter of differences. -/
theorem isFresh_later (g : Gate) (span now maxAge : Nat) :
    (g.later span).isFresh (now + span) maxAge = g.isFresh now maxAge := by
  obtain ⟨stamp⟩ := g
  cases stamp with
  | none => rfl
  | some t =>
      simp only [later, laterStamp, isFresh, Option.map_some, Nat.add_le_add_iff_right,
        Nat.add_sub_add_right]

theorem expire_later (g : Gate) (span now maxAge : Nat) :
    (g.later span).expire (now + span) maxAge = (g.expire now maxAge).later span := by
  unfold expire
  rw [isFresh_later]
  split <;> rfl

end Gate

namespace PeriodClock

def later (c : PeriodClock) (span : Nat) : PeriodClock := ⟨laterStamp span c.last⟩

/-- A clock fires later by as much as it is asked later. -/
theorem check_later (c : PeriodClock) (span now interval : Nat) :
    (c.later span).check (now + span) interval =
      ((c.check now interval).1.later span, (c.check now interval).2) := by
  have hDue : (c.later span).isDue (now + span) interval = c.isDue now interval := by
    obtain ⟨last⟩ := c
    cases last with
    | none => rfl
    | some t =>
        simp only [later, laterStamp, isDue, Option.map_some, Nat.add_lt_add_iff_right,
          Nat.add_sub_add_right]
  unfold check
  rw [hDue]
  split <;> rfl

theorem checkAfterStart_later (c : PeriodClock) (span now interval : Nat) :
    (c.later span).checkAfterStart (now + span) interval =
      ((c.checkAfterStart now interval).1.later span, (c.checkAfterStart now interval).2) := by
  obtain ⟨last⟩ := c
  cases last with
  | none => rfl
  | some t => exact check_later ⟨some t⟩ span now interval

end PeriodClock

namespace DeltaClock

def later (c : DeltaClock) (span : Nat) : DeltaClock := ⟨laterStamp span c.last⟩

/-- A step of time is the same later. -/
theorem feed_later (c : DeltaClock) (span now least : Nat) :
    (c.later span).feed (now + span) least =
      ((c.feed now least).1.later span, (c.feed now least).2) := by
  obtain ⟨last⟩ := c
  cases last with
  | none => rfl
  | some t =>
      simp only [later, laterStamp, feed, Option.map_some, Nat.add_lt_add_iff_right,
        Nat.add_sub_add_right]
      split
      · rfl
      · split <;> rfl

end DeltaClock

/-- The same sample, taken later. The UTC date and time are data like any other. -/
def Sample.later (s : Sample) (d : Delay) : Sample :=
  { s with
    clock := s.clock + d.clock
    time := laterStamp d.time s.time }

def TraceEntry.later (t : TraceEntry) (span : Nat) : TraceEntry := { t with time := t.time + span }

def Trace.later (t : Trace) (span : Nat) : Trace := t.map (TraceEntry.later · span)

theorem Trace.toList_later (t : Trace) (span : Nat) :
    (t.later span).toList = t.toList.map (TraceEntry.later · span) := Ring.toList_map _ _

theorem Trace.later_empty (span : Nat) : Trace.empty.later span = .empty := Ring.map_empty _ _

/-- Later samples make later entries. -/
theorem Trace.append_later (t : Trace) (s : Sample) (d : Delay) :
    (t.later d.time).append (s.later d) = (t.append s).later d.time := by
  unfold Trace.append Sample.later
  cases hTime : s.time with
  | none => rfl
  | some time => exact (Ring.map_push (TraceEntry.later · d.time) t (.ofSample s time)).symm

def Flight.later (f : Flight) (span : Nat) : Flight :=
  { f with
    takeoffTime := laterStamp span f.takeoffTime
    landingTime := laterStamp span f.landingTime }

def Circling.later (c : Circling) (span : Nat) : Circling :=
  { c with
    climbStart := laterStamp span c.climbStart
    cruiseStart := laterStamp span c.cruiseStart }

theorem Circling.startTask_later (c : Circling) (span now : Nat) :
    (c.later span).startTask (now + span) = (c.startTask now).later span := by
  unfold Circling.startTask
  change (if c.circling then _ else _) = _
  split <;> rfl

def TaskProgress.later (t : TaskProgress) (span : Nat) : TaskProgress :=
  { t with startTime := laterStamp span t.startTime }

def AirspaceWarnings.later (w : AirspaceWarnings) (span : Nat) : AirspaceWarnings :=
  { w with latest := w.latest.later span }

def Fuel.later (f : Fuel) (span : Nat) : Fuel := { f with available := f.available.later span }

theorem Fuel.update_later (f : Fuel) (plane : PlaneSettings) (span now : Nat) :
    (f.later span).update plane (now + span) = (f.update plane now).later span := by
  unfold Fuel.update
  split <;> rfl

def TeamView.later (t : TeamView) (span : Nat) : TeamView :=
  { t with ownCodeAvailable := t.ownCodeAvailable.later span }

namespace Situation

/-- The situation of a flight that is flown later: all gates, the stamps of flight, circling and
tasks, and the entries of the trace history are later, and nothing else is different. -/
def later (s : Situation) (d : Delay) : Situation :=
  { s.mapGates (fun _ gate => gate.later d.clock) with
    flight := s.flight.later d.clock
    circling := s.circling.later d.clock
    task := s.task.later d.clock
    orderedTask := s.orderedTask.later d.clock
    trace := s.trace.later d.time }

/-- All gates move with the sample clock. -/
theorem gate_later (s : Situation) (d : Delay) (value : Gated) :
    (s.later d).gate value = (s.gate value).later d.clock := by
  cases value <;> rfl

/-- What holds no stamp does not move. -/
theorem later_initial (d : Delay) : initial.later d = initial := by
  have hTrace : initial.trace.later d.time = .empty := Trace.later_empty _
  unfold later
  rw [hTrace]
  rfl

/-- Groups that are cleared hold no stamp, and the others move as they are. -/
theorem clearFlight_later (s : Situation) (d : Delay) :
    (s.later d).clearFlight = s.clearFlight.later d := by
  have hTrace : s.clearFlight.trace.later d.time = .empty := Trace.later_empty _
  unfold later
  rw [hTrace]
  rfl

theorem reset_later (s : Situation) (d : Delay) (full : Bool) :
    (s.later d).reset full = (s.reset full).later d := by
  cases full with
  | true => rw [reset_true, reset_true, later_initial]
  | false => rw [reset_false, reset_false, clearFlight_later]

/-- The local time follows the UTC data and asks of GPS time only whether it is there. -/
theorem localTimeOf_later (sample : Sample) (settings : Settings) (d : Delay) :
    localTimeOf (sample.later d) settings = localTimeOf sample settings := by
  have hAvailable : (sample.later d).timeAvailable = sample.timeAvailable := Option.isSome_map
  unfold localTimeOf
  rw [hAvailable]
  rfl

theorem startTask_later (s : Situation) (d : Delay) (now : Stamp) :
    (s.later d).startTask (now + d.clock) = (s.startTask now).later d := by
  have hMarked := Circling.startTask_later s.circling d.clock now
  exact congrArg (fun c : Circling => ({ s.later d with circling := c } : Situation)) hMarked

theorem expire_later (s : Situation) (d : Delay) (now : Stamp) :
    (s.later d).expire (now + d.clock) = (s.expire now).later d := by
  have hGates : ((s.later d).mapGates fun value gate => gate.expire (now + d.clock) value.maxAge) =
      (s.mapGates fun value gate => gate.expire now value.maxAge).later d := by
    simp only [later, mapGates, Gate.expire_later]
  have hDrop : ∀ t : Situation, (t.later d).dropStaleOwnCode = t.dropStaleOwnCode.later d := by
    intro t
    have hValid : (t.later d).team.ownCodeAvailable.isValid = t.team.ownCodeAvailable.isValid :=
      Gate.isValid_later _ _
    unfold dropStaleOwnCode
    rw [hValid]
    split <;> rfl
  unfold expire
  rw [hGates, hDrop]

end Situation

namespace Team

def Tracker.later (t : Tracker) (span : Nat) : Tracker :=
  { t with ownCodeClock := t.ownCodeClock.later span }

/-- Which reference is in use has to do with no clock. -/
theorem Reference.resolve_later (r : Reference) (named : Option WaypointId)
    (source : WaypointSource) (team : TeamView) (span : Nat) :
    r.resolve named source (team.later span) =
      { r.resolve named source team with
        team := (r.resolve named source team).team.later span } := by
  have hLookup : ∀ id, r.lookup id source (team.later span) =
      { r.lookup id source team with team := (r.lookup id source team).team.later span } := by
    intro id
    unfold lookup
    cases source id <;> rfl
  cases named with
  | none => cases r <;> rfl
  | some id =>
      cases r with
      | unset | missing => exact hLookup id
      | resolved known location =>
          simp only [resolve]
          split
          · rfl
          · exact hLookup id

/-- Codes carry no time, only their gate does. -/
theorem updateOwnCode_later (clock : PeriodClock) (interval : Nat) (sample : Sample)
    (reference : Geo.Point) (team : TeamView) (d : Delay) :
    updateOwnCode (clock.later d.clock) interval (sample.later d) reference (team.later d.clock) =
      ((updateOwnCode clock interval sample reference team).1.later d.clock,
        (updateOwnCode clock interval sample reference team).2.later d.clock) := by
  unfold updateOwnCode Sample.later
  cases sample.location with
  | none => rfl
  | some own =>
      dsimp only
      rw [PeriodClock.check_later]
      generalize clock.check sample.clock interval = checked
      obtain ⟨clock, due⟩ := checked
      cases due <;> rfl

theorem updateMate_later (settings : TeamSettings) (sample : Sample) (reference : Geo.Point)
    (team : TeamView) (d : Delay) :
    updateMate settings (sample.later d) reference (team.later d.clock) =
      (updateMate settings sample reference team).later d.clock := by
  unfold updateMate Sample.later
  cases settings.flarm with
  | none => cases settings.code <;> rfl
  | some id =>
      dsimp only
      cases (sample.traffic.find? id).bind Contact.location <;> rfl

end Team

end Soaring

import Soaring.Engine.Operation

/-!
What each elementary effect does to each part of an engine. An effect changes the situation, the
memory of the instruments, one clock or the queue, and enters what it did into the journal; all else
is left alone. Proofs about operations use these equations and do not open an effect.
-/
namespace Soaring

/-- The entry tells of something that reaches the instruments or the queue. Notes and lookups do
not. -/
def Entry.isEffect : Entry → Bool
  | .call _ | .event _ => true
  | .note _ | .lookup _ => false

def Entry.event? : Entry → Option Event
  | .event pushed => some pushed
  | _ => none

/-- Only effects can be events. -/
theorem Entry.event?_eq_none {entry : Entry} (h : ¬ entry.isEffect) : entry.event? = none := by
  cases entry with
  | event pushed => exact absurd rfl h
  | call | note | lookup => rfl

namespace Engine

variable {Memory : Type}

/-- The events that the current operation has put into the queue, in order. -/
def recorded (e : Engine Memory) : List Event := e.journal.filterMap Entry.event?

/-- A new operation starts with an empty record. -/
@[simp]
theorem openJournal_frame (e : Engine Memory) :
    e.openJournal.instruments = e.instruments ∧ e.openJournal.memory = e.memory ∧
    e.openJournal.settings = e.settings ∧ e.openJournal.cadence = e.cadence ∧
    e.openJournal.waypoints = e.waypoints ∧ e.openJournal.sample = e.sample ∧
    e.openJournal.situation = e.situation ∧ e.openJournal.finish = e.finish ∧
    e.openJournal.tracker = e.tracker ∧ e.openJournal.idleClock = e.idleClock ∧
    e.openJournal.traceClock = e.traceClock ∧ e.openJournal.events = e.events ∧
    e.openJournal.recorded = [] :=
  ⟨rfl, rfl, rfl, rfl, rfl, rfl, rfl, rfl, rfl, rfl, rfl, rfl, rfl⟩

@[simp]
theorem enter_frame (e : Engine Memory) (entries : List Entry) :
    (e.enter entries).instruments = e.instruments ∧ (e.enter entries).memory = e.memory ∧
    (e.enter entries).settings = e.settings ∧ (e.enter entries).cadence = e.cadence ∧
    (e.enter entries).waypoints = e.waypoints ∧ (e.enter entries).sample = e.sample ∧
    (e.enter entries).situation = e.situation ∧ (e.enter entries).finish = e.finish ∧
    (e.enter entries).tracker = e.tracker ∧ (e.enter entries).idleClock = e.idleClock ∧
    (e.enter entries).traceClock = e.traceClock ∧ (e.enter entries).events = e.events :=
  ⟨rfl, rfl, rfl, rfl, rfl, rfl, rfl, rfl, rfl, rfl, rfl, rfl⟩

/-- Entries of the journal are recorded if they are events. -/
@[simp]
theorem recorded_enter (e : Engine Memory) (entries : List Entry) :
    (e.enter entries).recorded = e.recorded ++ entries.filterMap Entry.event? :=
  List.filterMap_append ..

/-- A note changes nothing but the log. -/
@[simp]
theorem note_frame (e : Engine Memory) (n : Note) :
    (e.note n).instruments = e.instruments ∧ (e.note n).memory = e.memory ∧
    (e.note n).settings = e.settings ∧ (e.note n).cadence = e.cadence ∧
    (e.note n).waypoints = e.waypoints ∧ (e.note n).sample = e.sample ∧
    (e.note n).situation = e.situation ∧ (e.note n).finish = e.finish ∧
    (e.note n).tracker = e.tracker ∧ (e.note n).idleClock = e.idleClock ∧
    (e.note n).traceClock = e.traceClock ∧ (e.note n).events = e.events ∧
    (e.note n).recorded = e.recorded := by
  simp [note, Entry.event?]

/-- A revision replaces the situation by the one that the instruments give back. -/
@[simp]
theorem situation_revise (e : Engine Memory) (r : Revision) :
    (e.revise r).situation = (e.instruments.revise r e.situation e.memory).1 := rfl

/-- A revision cannot reach the engine itself: settings, clocks, snapshot and queue are out of its
sight. -/
@[simp]
theorem revise_frame (e : Engine Memory) (r : Revision) :
    (e.revise r).instruments = e.instruments ∧ (e.revise r).settings = e.settings ∧
    (e.revise r).cadence = e.cadence ∧ (e.revise r).waypoints = e.waypoints ∧
    (e.revise r).sample = e.sample ∧ (e.revise r).finish = e.finish ∧
    (e.revise r).tracker = e.tracker ∧ (e.revise r).idleClock = e.idleClock ∧
    (e.revise r).traceClock = e.traceClock ∧ (e.revise r).events = e.events ∧
    (e.revise r).recorded = e.recorded := by
  refine ⟨rfl, rfl, rfl, rfl, rfl, rfl, rfl, rfl, rfl, rfl, ?_⟩
  exact (recorded_enter e _).trans (List.append_nil _)

/-- An observation changes nothing but the memory of the instruments. -/
@[simp]
theorem observe_frame (e : Engine Memory) (o : Observation) :
    (e.observe o).instruments = e.instruments ∧ (e.observe o).settings = e.settings ∧
    (e.observe o).cadence = e.cadence ∧ (e.observe o).waypoints = e.waypoints ∧
    (e.observe o).sample = e.sample ∧ (e.observe o).situation = e.situation ∧
    (e.observe o).finish = e.finish ∧ (e.observe o).tracker = e.tracker ∧
    (e.observe o).idleClock = e.idleClock ∧ (e.observe o).traceClock = e.traceClock ∧
    (e.observe o).events = e.events ∧ (e.observe o).recorded = e.recorded := by
  refine ⟨rfl, rfl, rfl, rfl, rfl, rfl, rfl, rfl, rfl, rfl, rfl, ?_⟩
  exact (recorded_enter e _).trans (List.append_nil _)

/-- A notice changes nothing but the memory of the instruments. -/
@[simp]
theorem notify_frame (e : Engine Memory) (n : Notice) :
    (e.notify n).instruments = e.instruments ∧ (e.notify n).settings = e.settings ∧
    (e.notify n).cadence = e.cadence ∧ (e.notify n).waypoints = e.waypoints ∧
    (e.notify n).sample = e.sample ∧ (e.notify n).situation = e.situation ∧
    (e.notify n).finish = e.finish ∧ (e.notify n).tracker = e.tracker ∧
    (e.notify n).idleClock = e.idleClock ∧ (e.notify n).traceClock = e.traceClock ∧
    (e.notify n).events = e.events ∧ (e.notify n).recorded = e.recorded := by
  refine ⟨rfl, rfl, rfl, rfl, rfl, rfl, rfl, rfl, rfl, rfl, rfl, ?_⟩
  exact (recorded_enter e _).trans (List.append_nil _)

/-- An update of the warnings changes that group of the situation and no other. -/
@[simp]
theorem situation_updateWarnings (e : Engine Memory) (feed : Feed) (exhaustive : Bool) :
    (e.updateWarnings feed exhaustive).situation = { e.situation with
      warnings := (e.instruments.warn feed exhaustive e.situation e.memory).1 } := rfl

@[simp]
theorem updateWarnings_frame (e : Engine Memory) (feed : Feed) (x : Bool) :
    (e.updateWarnings feed x).instruments = e.instruments ∧
    (e.updateWarnings feed x).settings = e.settings ∧
    (e.updateWarnings feed x).cadence = e.cadence ∧
    (e.updateWarnings feed x).waypoints = e.waypoints ∧
    (e.updateWarnings feed x).sample = e.sample ∧
    (e.updateWarnings feed x).finish = e.finish ∧
    (e.updateWarnings feed x).tracker = e.tracker ∧
    (e.updateWarnings feed x).idleClock = e.idleClock ∧
    (e.updateWarnings feed x).traceClock = e.traceClock ∧
    (e.updateWarnings feed x).events = e.events ∧
    (e.updateWarnings feed x).recorded = e.recorded := by
  refine ⟨rfl, rfl, rfl, rfl, rfl, rfl, rfl, rfl, rfl, rfl, ?_⟩
  exact (recorded_enter e _).trans (List.append_nil _)

@[simp]
theorem situation_applyStatistics (e : Engine Memory)
    (change : Statistics → Situation → Situation) :
    (e.applyStatistics change).situation = change e.statistics e.situation := rfl

/-- Statistics are read and not changed. -/
@[simp]
theorem applyStatistics_frame (e : Engine Memory)
    (change : Statistics → Situation → Situation) :
    (e.applyStatistics change).instruments = e.instruments ∧
    (e.applyStatistics change).memory = e.memory ∧
    (e.applyStatistics change).settings = e.settings ∧
    (e.applyStatistics change).cadence = e.cadence ∧
    (e.applyStatistics change).waypoints = e.waypoints ∧
    (e.applyStatistics change).sample = e.sample ∧
    (e.applyStatistics change).finish = e.finish ∧
    (e.applyStatistics change).tracker = e.tracker ∧
    (e.applyStatistics change).idleClock = e.idleClock ∧
    (e.applyStatistics change).traceClock = e.traceClock ∧
    (e.applyStatistics change).events = e.events ∧
    (e.applyStatistics change).recorded = e.recorded := by
  refine ⟨rfl, rfl, rfl, rfl, rfl, rfl, rfl, rfl, rfl, rfl, rfl, ?_⟩
  exact (recorded_enter e _).trans (List.append_nil _)

@[simp]
theorem events_record (e : Engine Memory) (event : Event) :
    (e.record event).events = e.events.push event := rfl

/-- A lost event is only noted, so what an event adds to the record does not depend on the queue. -/
@[simp]
theorem recorded_record (e : Engine Memory) (event : Event) :
    (e.record event).recorded = e.recorded ++ [event] := by
  change (e.enter _).recorded = _
  rw [recorded_enter]
  cases e.events.overflow? <;> rfl

@[simp]
theorem record_frame (e : Engine Memory) (event : Event) :
    (e.record event).instruments = e.instruments ∧ (e.record event).memory = e.memory ∧
    (e.record event).settings = e.settings ∧ (e.record event).cadence = e.cadence ∧
    (e.record event).waypoints = e.waypoints ∧ (e.record event).sample = e.sample ∧
    (e.record event).situation = e.situation ∧ (e.record event).finish = e.finish ∧
    (e.record event).tracker = e.tracker ∧ (e.record event).idleClock = e.idleClock ∧
    (e.record event).traceClock = e.traceClock :=
  ⟨rfl, rfl, rfl, rfl, rfl, rfl, rfl, rfl, rfl, rfl, rfl⟩

end Engine

end Soaring

import Soaring.Proofs.Engine.Stages
import Soaring.Proofs.Situation.Later

/-!
Instruments and engines in a flight that is flown later. What a call is told, what the journal holds
and what an engine keeps move with the two time lines, and instruments may commute with that.
-/
namespace Soaring

def Feed.later (feed : Feed) (d : Delay) : Feed := { feed with sample := feed.sample.later d }

def Revision.later (d : Delay) : Revision → Revision
  | .airBasics feed => .airBasics (feed.later d)
  | .airVertical feed => .airVertical (feed.later d)
  | .flightPhase feed => .flightPhase (feed.later d)
  | .taskBasics feed force => .taskBasics (feed.later d) force
  | .taskMore feed force => .taskMore (feed.later d) force
  | .taskAuto feed force => .taskAuto (feed.later d) force
  | .taskIdle feed exhaustive => .taskIdle (feed.later d) exhaustive
  | .cruise feed => .cruise (feed.later d)
  | .resetAirData full => .resetAirData full

def Observation.later (d : Delay) : Observation → Observation
  | .climbEvents sample => .climbEvents (sample.later d)
  | .statisticsLog sample => .statisticsLog (sample.later d)
  | .monitors feed => .monitors (feed.later d)
  | .idleMonitors feed => .idleMonitors (feed.later d)
  | .recorder feed => .recorder (feed.later d)

def Notice.later (d : Delay) : Notice → Notice
  | .startStatistics sample => .startStatistics (sample.later d)
  | .startRecorder sample => .startRecorder (sample.later d)
  | other => other

def Call.later (d : Delay) : Call → Call
  | .revision r seen => .revision (r.later d) (seen.later d)
  | .observation o seen => .observation (o.later d) (seen.later d)
  | .warnings feed exhaustive seen => .warnings (feed.later d) exhaustive (seen.later d)
  | .notice n => .notice (n.later d)
  | .statistics => .statistics

def Note.later (d : Delay) : Note → Note
  | .taskStarted clock => .taskStarted (clock + d.clock)
  | .taskFinished clock => .taskFinished (clock + d.clock)
  | .takeoff clock => .takeoff (clock + d.clock)
  | .landing clock => .landing (clock + d.clock)
  | other => other

def Entry.later (d : Delay) : Entry → Entry
  | .call made => .call (made.later d)
  | .note logged => .note (logged.later d)
  | .lookup id => .lookup id
  | .event pushed => .event pushed

/-- The same operation in a flight that is flown later: its sample is taken later. -/
def Operation.later (d : Delay) : Operation → Operation
  | .tick sample force => .tick (sample.later d) force
  | other => other

theorem Entry.event?_later (d : Delay) (entry : Entry) : (entry.later d).event? = entry.event? := by
  cases entry <;> rfl

/-- The instruments commute with a delay: with their memory shifted, and the samples and the
situation later, they do the same, only later. -/
structure Instruments.Commutes {Memory : Type} (i : Instruments Memory) (d : Delay)
    (shift : Memory → Memory) : Prop where
  revise : ∀ r s m, i.revise (r.later d) (s.later d) (shift m) =
    ((i.revise r s m).1.later d, shift (i.revise r s m).2)
  observe : ∀ o s m, i.observe (o.later d) (s.later d) (shift m) = shift (i.observe o s m)
  warn : ∀ feed exhaustive s m, i.warn (feed.later d) exhaustive (s.later d) (shift m) =
    ((i.warn feed exhaustive s m).1.later d.clock, shift (i.warn feed exhaustive s m).2)
  notify : ∀ n m, i.notify (n.later d) (shift m) = shift (i.notify n m)
  statistics : ∀ m, i.statistics (shift m) = i.statistics m

namespace Instruments

theorem none_commutes (d : Delay) : none.Commutes d id :=
  ⟨fun _ _ _ => rfl, fun _ _ _ => rfl, fun _ _ _ _ => rfl, fun _ _ => rfl, fun _ => rfl⟩

/-- Instruments of a flight of the given length that begins with the first sample. They remember
when that was, and see a climb at every sample. -/
def launched (length : Nat) : Instruments (Option Stamp) where
  revise r s start := match r with
    | .airBasics feed =>
        ({ s with climb := { s.climb with available := .updatedAt feed.sample.clock } },
          start.or feed.sample.clock)
    | .flightPhase feed =>
        ({ s with flight := { s.flight with
          flying := start.any (feed.sample.clock < · + length)
          takeoffTime := start } }, start)
    | _ => (s, start)
  observe _ _ start := start
  warn _ _ s start := (s.warnings, start)
  notify _ start := start
  statistics _ := {}

/-- Instruments that hold a stamp commute with the delay if their memory is moved along. -/
theorem launched_commutes (length : Nat) (d : Delay) :
    (launched length).Commutes d (laterStamp d.clock) where
  revise r s start := by
    cases r with
    | airBasics feed => cases start <;> rfl
    | flightPhase feed =>
        have hFlying : (laterStamp d.clock start).any (feed.sample.clock + d.clock < · + length) =
            start.any (feed.sample.clock < · + length) := by
          cases start with
          | none => rfl
          | some begun => simp [laterStamp, Nat.add_right_comm]
        exact congrArg (fun flying =>
          (({ s with flight := { s.flight with flying := flying, takeoffTime := start } } :
            Situation).later d, laterStamp d.clock start)) hFlying
    | taskBasics | airVertical | taskMore | taskAuto | taskIdle | cruise | resetAirData => rfl
  observe _ _ _ := rfl
  warn _ _ _ _ := rfl
  notify _ _ := rfl
  statistics _ := rfl

end Instruments

/-- The entries on the reference carry no stamp. -/
theorem Entry.later_of_ofReference {entry : Entry} (h : entry.ofReference = true) (d : Delay) :
    entry.later d = entry := by
  cases entry with
  | lookup | event => rfl
  | call => cases h
  | note note =>
      cases note with
      | referenceResolved | referenceNotFound => rfl
      | timeWarp | taskStarted | taskFinished | takeoff | landing | eventDropped
      | settingsRejected => cases h

/-- The team computations compare stamps of the sample clock only, so they commute with a delay. -/
theorem Team.track_later (t : Tracker) (interval : Nat) (feed : Feed) (source : WaypointSource)
    (team : TeamView) (d : Delay) :
    (t.later d.clock).track interval (feed.later d) source (team.later d.clock) =
      { tracker := (t.track interval feed source team).tracker.later d.clock
        team := (t.track interval feed source team).team.later d.clock
        entries := (t.track interval feed source team).entries } := by
  unfold Tracker.track
  dsimp only [Tracker.later, Feed.later]
  rw [Reference.resolve_later]
  generalize t.reference.resolve feed.settings.team.reference source team = found
  obtain ⟨reference, view, location, entries⟩ := found
  cases location with
  | none => rfl
  | some location =>
      dsimp only
      rw [updateOwnCode_later]
      generalize updateOwnCode t.ownCodeClock interval feed.sample location view = updated
      obtain ⟨clock, view⟩ := updated
      simp only [updateMate_later]

namespace Engine

variable {Memory : Type}

def later (e : Engine Memory) (d : Delay) (shift : Memory → Memory) : Engine Memory :=
  { e with
    memory := shift e.memory
    sample := e.sample.later d
    situation := e.situation.later d
    finish := e.finish.map (·.later d)
    tracker := e.tracker.later d.clock
    idleClock := e.idleClock.later d.clock
    traceClock := e.traceClock.later d.time
    journal := e.journal.map (Entry.later d) }

/-- Events carry no time. -/
theorem recorded_later (e : Engine Memory) (d : Delay) (shift : Memory → Memory) :
    (e.later d shift).recorded = e.recorded := by
  unfold recorded later
  rw [List.filterMap_map]
  exact congrArg (List.filterMap · e.journal) (funext (Entry.event?_later d))

/-- The trace clock follows GPS time and moves by the other amount. -/
theorem traceStep_later (e : Engine Memory) (d : Delay) (shift : Memory → Memory)
    (sample : Sample) :
    (e.later d shift).traceStep (sample.later d) =
      ((e.traceStep sample).1.later d.time, (e.traceStep sample).2) := by
  have hTime : (sample.later d).time = laterStamp d.time sample.time := rfl
  unfold traceStep
  rw [hTime]
  cases sample.time with
  | none => rfl
  | some time => exact DeltaClock.feed_later e.traceClock d.time time e.cadence.trace

theorem traceNotes_later (d : Delay) (step : TimeStep) :
    (traceNotes step).map (Entry.later d) = traceNotes step := by
  cases step <;> rfl

/-- The history moves with GPS time, as the stamps of its entries do. -/
theorem traceAfter_later (trace : Trace) (sample : Sample) (d : Delay) (step : TimeStep) :
    traceAfter (trace.later d.time) (sample.later d) step =
      (traceAfter trace sample step).later d.time := by
  cases step with
  | pending => rfl
  | elapsed => exact Trace.append_later ..
  | warp => exact (Trace.later_empty _).symm

theorem tracking_later (e : Engine Memory) (d : Delay) (shift : Memory → Memory) :
    (e.later d shift).tracking =
      { tracker := e.tracking.tracker.later d.clock
        team := e.tracking.team.later d.clock
        entries := e.tracking.entries } :=
  Team.track_later e.tracker e.cadence.teamCode e.feed e.waypoints e.situation.team d

/-- Lookups and failures carry no time. -/
theorem entries_tracking_later (e : Engine Memory) (d : Delay) :
    e.tracking.entries.map (Entry.later d) = e.tracking.entries := by
  have hStampless : ∀ entry ∈ e.tracking.entries, entry.later d = id entry := fun entry h =>
    Entry.later_of_ofReference (Team.ofReference_of_mem_track h) d
  rw [List.map_congr_left hStampless, List.map_id]

end Engine

end Soaring

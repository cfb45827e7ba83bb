import Soaring.Proofs.Engine.Operations
import Soaring.Proofs.Promises

/-!
Which events an operation records. The engine does not store the flags of the last tick. It reads
them back from the situation, which the finish, a landing and resets rewrite, so the flags are
tracked beside a run: the situation always shows the flags that were written last, and when it shows
a finished task, so does the snapshot that a landing would bring back.
-/
namespace Soaring

/-- The flags whose changes are events. -/
structure Flags where
  flying : Bool
  finished : Bool
  deriving DecidableEq

namespace Flags

/-- The flags of an engine that has seen no tick since it was built or reset. -/
def down : Flags := ⟨false, false⟩

def finishEdge (wasFinished finished : Bool) : List Event :=
  if finished && !wasFinished then [.taskFinished] else []

def phaseEdge (wasFlying flying : Bool) : List Event :=
  if flying && !wasFlying then [.takeoff] else if wasFlying && !flying then [.landing] else []

/-- The events that lead from the flags of one tick to those of the next, in order. -/
def edges (before after : Flags) : List Event :=
  finishEdge before.finished after.finished ++ phaseEdge before.flying after.flying

end Flags

namespace Engine

variable {Memory : Type}

/-- The flags that the calls of a tick write: the basic task call decides whether the task is
finished, the flight phase call whether the aircraft flies. -/
def writtenFlags (e : Engine Memory) (sample : Sample) (force : Bool) : Flags :=
  { flying := (e.derive sample force).situation.flight.flying
    finished := (e.afterTaskBasics sample force).situation.orderedTask.finished }

/-- The flags after an operation. A tick writes them and a reset takes them down. -/
def flagsAfter (e : Engine Memory) (flags : Flags) : Operation → Flags
  | .tick sample force => e.openJournal.writtenFlags sample force
  | .resetFlight _ => .down
  | _ => flags

/-- The flags that were written last in a run of operations. -/
def lastFlags (e : Engine Memory) (flags : Flags) : List Operation → Flags
  | [] => flags
  | operation :: rest => (e.perform operation).1.lastFlags (e.flagsAfter flags operation) rest

/-- The events that an operation is to record: the edges of a tick, the start of a task, and nothing
else. -/
def due (e : Engine Memory) (flags : Flags) : Operation → List Event
  | .tick sample force => flags.edges (e.openJournal.writtenFlags sample force)
  | .startTask => [.taskStarted]
  | _ => []

/-- The engine shows the flags, and so does its snapshot as far as a landing may bring it back. -/
structure Shows (e : Engine Memory) (flags : Flags) : Prop where
  flying : e.situation.flight.flying = flags.flying
  finished : e.situation.orderedTask.finished = flags.finished
  snapshot : flags.finished = true → ∃ saved, e.finish = some saved ∧
    saved.orderedTask.finished = true

/-- The flight phase records its edge, in the journal and in the queue. -/
theorem phaseEdge_records (e : Engine Memory) (wasFlying : Bool) :
    (e.phaseEdge wasFlying).recorded =
      e.recorded ++ Flags.phaseEdge wasFlying e.situation.flight.flying ∧
    (e.phaseEdge wasFlying).events =
      (Flags.phaseEdge wasFlying e.situation.flight.flying).foldl .push e.events := by
  rcases phaseEdge_cases e wasFlying with ⟨hNow, hWas, h⟩ | ⟨hNow, hWas, h⟩ | ⟨hSame, h⟩
  · rw [h]
    simp [hNow, hWas, Flags.phaseEdge]
  · rw [h]
    simp [hNow, hWas, Flags.phaseEdge]
  · simp [h, hSame, Flags.phaseEdge]

/-- The flight phase leaves the flags as the calls of the tick have written them, if the snapshot
that a landing brings back shows a finished task. -/
theorem Shows.phaseEdge {e : Engine Memory} {flags : Flags} (h : e.Shows flags)
    (hFlying : e.instruments.Confines (fun s => s.flight.flying) Revision.isFlightPhase)
    (hFinished : e.instruments.Confines (fun s => s.orderedTask.finished) Revision.isTaskBasics)
    (wasFlying : Bool) : (e.phaseEdge wasFlying).Shows flags := by
  have hReset : ∀ m, (e.instruments.revise (.resetAirData false) e.situation m).1.flight.flying =
      flags.flying := fun m =>
    (hFlying _ _ _ (by simp)).trans h.flying
  have hKept : ∀ m, (e.instruments.revise (.resetAirData false) e.situation
      m).1.orderedTask.finished = flags.finished := fun m =>
    (hFinished _ _ _ (by simp)).trans h.finished
  rcases phaseEdge_cases e wasFlying with ⟨-, -, hCase⟩ | ⟨-, -, hCase⟩ | ⟨-, hCase⟩
  -- A takeoff saves what it shows, so the snapshot is as good as the view.
  · rw [hCase]
    refine ⟨by simpa using hReset _, by simpa using hKept _, ?_⟩
    intro hTrue
    refine ⟨e.takeOff.situation, by simp, ?_⟩
    simpa [hTrue] using hKept e.memory
  -- A landing on a finished task shows the snapshot, which is of a finished task as well.
  · rw [hCase]
    by_cases hDone : e.situation.orderedTask.finished = true
    · obtain ⟨saved, hSaved, hSavedDone⟩ := h.snapshot (h.finished ▸ hDone)
      refine ⟨?_, ?_, by simpa using h.snapshot⟩
      · simp [situation_land, hDone, h.flying]
      · simp [situation_land, hDone, recalled, hSaved, hSavedDone, ← h.finished]
    · refine ⟨?_, ?_, by simpa using h.snapshot⟩
      · simp [situation_land, hDone, h.flying]
      · simp [situation_land, hDone, ← h.finished]
  · rwa [hCase]

/-- Only the basic task call moves the finished flag within a tick. -/
theorem finished_derive {e : Engine Memory}
    (hFinished : e.instruments.Confines (fun s => s.orderedTask.finished) Revision.isTaskBasics)
    (sample : Sample) (force : Bool) :
    (e.afterAirBasics sample).situation.orderedTask.finished = e.situation.orderedTask.finished ∧
    (e.derive sample force).situation.orderedTask.finished =
      (e.writtenFlags sample force).finished := by
  have hKeep : ∀ r s m, ¬ r.isTaskBasics →
      (e.instruments.revise r s m).1.orderedTask.finished = s.orderedTask.finished := hFinished
  constructor
  · simp [afterAirBasics, hKeep]
  · simp [writtenFlags, derive_eq, beforeTeam, hKeep]

/-- What comes before the flight phase leaves the flags as the calls wrote them. A task that is
finished by then was so before, or its finish was saved just now. -/
theorem Shows.derive {e : Engine Memory} {flags : Flags} (h : e.Shows flags)
    (hFinished : e.instruments.Confines (fun s => s.orderedTask.finished) Revision.isTaskBasics)
    (sample : Sample) (force : Bool) :
    (e.derive sample force).Shows (e.writtenFlags sample force) := by
  obtain ⟨hBefore, hAfter⟩ := finished_derive hFinished sample force
  refine ⟨rfl, hAfter, ?_⟩
  intro hTrue
  rw [finish_derive]
  by_cases hEdge : e.finishesTask sample force = true
  · exact ⟨_, by rw [if_pos hEdge], hTrue⟩
  · have hWas : flags.finished = true := by
      have hDone : (e.afterTaskBasics sample force).situation.orderedTask.finished = true := hTrue
      simpa [finishesTask, hBefore, hDone, h.finished] using hEdge
    rw [if_neg hEdge]
    exact h.snapshot hWas

/-- A tick shows the flags that its calls have written, also when a landing brings back the
snapshot. -/
theorem Shows.tick {e : Engine Memory} {flags : Flags} (h : e.Shows flags)
    (hFlying : e.instruments.Confines (fun s => s.flight.flying) Revision.isFlightPhase)
    (hFinished : e.instruments.Confines (fun s => s.orderedTask.finished) Revision.isTaskBasics)
    (sample : Sample) (force : Bool) :
    (e.tick sample force).1.Shows (e.writtenFlags sample force) := by
  have hPhase := (h.derive hFinished sample force).phaseEdge (by simpa using hFlying)
    (by simpa using hFinished) e.situation.flight.flying
  rw [tick_eq]
  exact ⟨hPhase.flying, hPhase.finished, hPhase.snapshot⟩

/-- What a tick records is what leads from the flags shown before to the flags written. -/
theorem Shows.recorded_tick {e : Engine Memory} {flags : Flags} (h : e.Shows flags)
    (hFinished : e.instruments.Confines (fun s => s.orderedTask.finished) Revision.isTaskBasics)
    (sample : Sample) (force : Bool) :
    (e.tick sample force).1.recorded =
        e.recorded ++ flags.edges (e.writtenFlags sample force) ∧
    (e.tick sample force).1.events =
        (flags.edges (e.writtenFlags sample force)).foldl .push e.events := by
  have hEdge : e.finishesTask sample force =
      ((e.writtenFlags sample force).finished && !flags.finished) := by
    unfold finishesTask
    rw [(finished_derive hFinished sample force).1, h.finished, Bool.and_comm]
    rfl
  have hWritten : (e.derive sample force).situation.flight.flying =
      (e.writtenFlags sample force).flying := rfl
  constructor
  · simp only [tick_eq, checkIdle_frame, phaseEdge_records, recorded_derive, hEdge, hWritten,
      h.flying, Flags.edges, Flags.finishEdge, List.append_assoc]
  · simp only [tick_eq, checkIdle_frame, phaseEdge_records, events_derive, hEdge, hWritten,
      h.flying, Flags.edges, Flags.finishEdge, List.foldl_append]
    split <;> rfl

/-- Both kinds of reset take both flags down. -/
theorem Shows.resetFlight {e : Engine Memory}
    (hFlying : e.instruments.Confines (fun s => s.flight.flying) Revision.isFlightPhase)
    (hFinished : e.instruments.Confines (fun s => s.orderedTask.finished) Revision.isTaskBasics)
    (full : Bool) : (e.resetFlight full).Shows .down := by
  refine ⟨?_, ?_, ?_⟩
  · rw [situation_resetFlight]
    refine (hFlying _ _ _ (by simp)).trans ?_
    cases full <;> rfl
  · rw [situation_resetFlight]
    refine (hFinished _ _ _ (by simp)).trans ?_
    cases full <;> rfl
  · intro hTrue
    cases hTrue

/-- A new engine has seen no tick. -/
theorem shows_powerUp {i : Instruments Memory}
    (hFlying : i.Confines (fun s => s.flight.flying) Revision.isFlightPhase)
    (hFinished : i.Confines (fun s => s.orderedTask.finished) Revision.isTaskBasics)
    (m : Memory) (settings : Settings) (cadence : Cadence) (waypoints : WaypointSource) :
    (powerUp i m settings cadence waypoints).Shows .down := by
  let fresh : Engine Memory :=
    { instruments := i
      memory := m
      settings := settings
      cadence := cadence
      waypoints := waypoints }
  have hReset := Shows.resetFlight (e := fresh) hFlying hFinished true
  exact ⟨hReset.flying, hReset.finished, hReset.snapshot⟩

/-- Every operation but the recall of the snapshot by hand keeps the flags in view. -/
theorem Shows.perform {e : Engine Memory} {flags : Flags} (h : e.Shows flags)
    (hFlying : e.instruments.Confines (fun s => s.flight.flying) Revision.isFlightPhase)
    (hFinished : e.instruments.Confines (fun s => s.orderedTask.finished) Revision.isTaskBasics)
    {operation : Operation} (hRecall : operation ≠ .restoreFinish) :
    (e.perform operation).1.Shows (e.flagsAfter flags operation) := by
  have hOpen : e.openJournal.Shows flags := ⟨h.flying, h.finished, h.snapshot⟩
  cases operation with
  | tick sample force => exact hOpen.tick hFlying hFinished sample force
  | resetFlight full => exact Shows.resetFlight (e := e.openJournal) hFlying hFinished full
  | restoreFinish => exact absurd rfl hRecall
  | idlePass exhaustive =>
      obtain ⟨warnings, memory, hSituation⟩ := situation_idlePass e.openJournal exhaustive
      have hIdle : (e.perform (.idlePass exhaustive)).1.situation = _ := hSituation
      refine ⟨?_, ?_, ?_⟩
      · rw [hIdle]
        exact (hFlying _ _ _ (by simp)).trans h.flying
      · rw [hIdle]
        exact (hFinished _ _ _ (by simp)).trans h.finished
      · simpa [Engine.perform, flagsAfter] using h.snapshot
  | saveFinish =>
      refine ⟨h.flying, h.finished, ?_⟩
      intro hTrue
      exact ⟨e.situation, rfl, h.finished.trans hTrue⟩
  | startTask | setSettings =>
      refine ⟨?_, ?_, ?_⟩
      · simpa [Engine.perform, flagsAfter] using h.flying
      · simpa [Engine.perform, flagsAfter] using h.finished
      · simpa [Engine.perform, flagsAfter] using h.snapshot
  | enterZone | setWaypoints | drainEvents => exact ⟨h.flying, h.finished, h.snapshot⟩

/-- An engine that shows the flags records what is due, in any operation whatever. What it records
is what it puts into the queue. -/
theorem Shows.recorded_perform {e : Engine Memory} {flags : Flags} (h : e.Shows flags)
    (hFinished : e.instruments.Confines (fun s => s.orderedTask.finished) Revision.isTaskBasics)
    (operation : Operation) :
    (e.perform operation).1.recorded = e.due flags operation ∧
    ((∀ limit, operation ≠ .drainEvents limit) →
      (e.perform operation).1.events = (e.due flags operation).foldl .push e.events) := by
  have hOpen : e.openJournal.Shows flags := ⟨h.flying, h.finished, h.snapshot⟩
  cases operation with
  | tick sample force =>
      obtain ⟨hRecorded, hEvents⟩ := hOpen.recorded_tick hFinished sample force
      exact ⟨hRecorded, fun _ => hEvents⟩
  | drainEvents limit => exact ⟨rfl, fun hOther => absurd rfl (hOther limit)⟩
  | startTask => simp [Engine.perform, due]
  | idlePass | resetFlight | enterZone | saveFinish | restoreFinish | setSettings | setWaypoints =>
      simp [Engine.perform, due, enterZone]

/-- After a run without an explicit recall an engine shows the flags that were written last. -/
theorem Shows.run {e : Engine Memory} {flags : Flags} (h : e.Shows flags)
    (hFlying : e.instruments.Confines (fun s => s.flight.flying) Revision.isFlightPhase)
    (hFinished : e.instruments.Confines (fun s => s.orderedTask.finished) Revision.isTaskBasics)
    {operations : List Operation} (hRecall : .restoreFinish ∉ operations) :
    (e.run operations).Shows (e.lastFlags flags operations) := by
  induction operations generalizing e flags with
  | nil => exact h
  | cons operation rest ih =>
      have hFirst : operation ≠ .restoreFinish := fun hSame => hRecall (by simp [hSame])
      have hRest : .restoreFinish ∉ rest := fun hMem => hRecall (by simp [hMem])
      exact ih (h.perform hFlying hFinished hFirst) (by simpa using hFlying)
        (by simpa using hFinished) hRest

/-- The recorded events are exactly the edges. Power-up records that the engine is ready. After any
run in which the snapshot is not recalled by hand, a tick records the edges between the flags of the
tick before, or those of a reset, and the flags that its own calls write; the start of a task
records itself, and any other operation nothing. A landing that brings back the snapshot is no
exception. What is recorded is what enters the queue. -/
theorem recorded_run_eq_edges (i : Instruments Memory) (m : Memory) (settings : Settings)
    (cadence : Cadence) (waypoints : WaypointSource) (past : List Operation)
    (operation : Operation)
    (hFlying : i.Confines (fun s => s.flight.flying) Revision.isFlightPhase)
    (hFinished : i.Confines (fun s => s.orderedTask.finished) Revision.isTaskBasics)
    (hRecall : .restoreFinish ∉ past) :
    let start := powerUp i m settings cadence waypoints
    let e := start.run past
    let due := e.due (start.lastFlags .down past) operation
    start.recorded = [.ready] ∧ start.events.pending = [.ready] ∧
    (e.perform operation).1.recorded = due ∧
    ((∀ limit, operation ≠ .drainEvents limit) →
      (e.perform operation).1.events = due.foldl .push e.events) := by
  intro start e due
  have hStart : start.instruments = i := by simp [start, powerUp]
  have hShows : e.Shows (start.lastFlags .down past) :=
    (shows_powerUp hFlying hFinished m settings cadence waypoints).run (by rwa [hStart])
      (by rwa [hStart]) hRecall
  refine ⟨?_, ?_, hShows.recorded_perform (by simpa [e, hStart] using hFinished) operation⟩
  · simp only [start, powerUp, recorded_record, resetFlight_frame]
    rfl
  · simp only [start, powerUp, events_record, resetFlight_frame]
    rfl

/-- A flight that finishes its task and lands on it. -/
theorem recorded_landing_eq_edges :
    let i := Instruments.timed 4000 2000
    let past : List Operation := [.tick { clock := 0 } false, .tick { clock := 2000 } false]
    i.Confines (fun s => s.flight.flying) Revision.isFlightPhase ∧
    i.Confines (fun s => s.orderedTask.finished) Revision.isTaskBasics ∧
    .restoreFinish ∉ past ∧
    (((powerUp i () {} {} fun _ => none).run past).perform
      (.tick { clock := 4000 } false)).1.recorded = [.landing] :=
  ⟨Instruments.timed_confines_flying 4000 2000, Instruments.timed_confines_finished 4000 2000,
    by simp, (recorded_run_eq_edges _ () {} {} (fun _ => none) _ _
      (Instruments.timed_confines_flying 4000 2000)
      (Instruments.timed_confines_finished 4000 2000) (by simp)).2.2.1⟩

end Engine

end Soaring

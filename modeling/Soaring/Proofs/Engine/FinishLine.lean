import Soaring.Proofs.Engine.Edges

/-!
The snapshot that a landing brings back. There is one slot for it, which the finish, every takeoff
and the caller write. A task that is shown as finished always has a snapshot that is finished too.
It is that of the finish line as long as no takeoff follows: a takeoff saves what it finds, also
when the task is finished already, and the next landing shows that in place of the finish.
-/
namespace Soaring.Engine

open Instruments (touchAndGo touchAndGo_confines_finished)

variable {Memory : Type}

/-- The events of a tick in terms of what its calls have written. -/
theorem recorded_tick (e : Engine Memory) (sample : Sample) (force : Bool) :
    (e.perform (.tick sample force)).1.recorded =
      (if e.openJournal.finishesTask sample force then [.taskFinished] else []) ++
        Flags.phaseEdge e.situation.flight.flying
          (e.openJournal.derive sample force).situation.flight.flying := by
  change (e.openJournal.tick sample force).1.recorded = _
  simp only [tick_eq, checkIdle_frame, phaseEdge_records, recorded_derive, openJournal_frame,
    List.nil_append]

/-- The finish is reported exactly if the basic task call has found it. -/
theorem taskFinished_mem_recorded_iff (e : Engine Memory) (sample : Sample) (force : Bool) :
    .taskFinished ∈ (e.perform (.tick sample force)).1.recorded ↔
      e.openJournal.finishesTask sample force = true := by
  rw [recorded_tick]
  unfold Flags.phaseEdge
  grind

/-- A takeoff is reported exactly if the flight phase turned to flying in the tick. -/
theorem takeoff_mem_recorded_iff (e : Engine Memory) (sample : Sample) (force : Bool) :
    .takeoff ∈ (e.perform (.tick sample force)).1.recorded ↔
      e.situation.flight.flying = false ∧
        (e.openJournal.derive sample force).situation.flight.flying = true := by
  rw [recorded_tick]
  unfold Flags.phaseEdge
  grind

/-- A landing is reported exactly if the flight phase turned away from flying in the tick. -/
theorem landing_mem_recorded_iff (e : Engine Memory) (sample : Sample) (force : Bool) :
    .landing ∈ (e.perform (.tick sample force)).1.recorded ↔
      e.situation.flight.flying = true ∧
        (e.openJournal.derive sample force).situation.flight.flying = false := by
  rw [recorded_tick]
  unfold Flags.phaseEdge
  grind

/-- A task that is shown as finished has a snapshot, which is of a finished task as well. -/
def Backed (e : Engine Memory) : Prop :=
  e.situation.orderedTask.finished = true →
    ∃ saved, e.finish = some saved ∧ saved.orderedTask.finished = true

section

variable {e : Engine Memory}

/-- An unfinished task needs no snapshot. -/
theorem backed_of_unfinished (h : e.situation.orderedTask.finished = false) : e.Backed := by
  intro hDone
  cases h.symm.trans hDone

/-- Up to the flight phase only the basic task call writes the finished flag, and where the flag
rises the snapshot is taken. -/
theorem Backed.derive (h : e.Backed)
    (hFinished : e.instruments.Confines (fun s => s.orderedTask.finished) Revision.isTaskBasics)
    (sample : Sample) (force : Bool) : (e.derive sample force).Backed := by
  have hShows : e.Shows ⟨e.situation.flight.flying, e.situation.orderedTask.finished⟩ :=
    ⟨rfl, rfl, h⟩
  have hAfter := hShows.derive hFinished sample force
  intro hDone
  exact hAfter.snapshot (hAfter.finished.symm.trans hDone)

/-- The flight phase keeps the invariant: at its edges the snapshot is saved or shown. -/
theorem Backed.tick (h : e.Backed)
    (hFinished : e.instruments.Confines (fun s => s.orderedTask.finished) Revision.isTaskBasics)
    (sample : Sample) (force : Bool) : (e.tick sample force).1.Backed := by
  have hDerived := h.derive hFinished sample force
  rcases tick_cases e sample force with
    ⟨-, -, hFinish⟩ | ⟨saved, -, hTick, -, hFinish⟩ | ⟨-, hTick, hFinish⟩
  -- A takeoff and a landing on a finished task make view and snapshot agree.
  · intro hDone
    exact ⟨_, hFinish, hDone⟩
  · intro hDone
    rw [hTick] at hDone
    exact ⟨saved, hFinish, hDone⟩
  · intro hDone
    rw [hTick] at hDone
    rw [hFinish]
    exact hDerived hDone

/-- Bringing back the snapshot of a finished task shows a finished task. -/
theorem Backed.finished_recalled (h : e.Backed) (hDone : e.situation.orderedTask.finished = true) :
    e.recalled.orderedTask.finished = true := by
  obtain ⟨saved, hSaved, hSavedDone⟩ := h hDone
  unfold recalled
  rw [hSaved]
  exact hSavedDone

/-- What is brought back is the snapshot itself. -/
theorem Backed.restoreFinish (h : e.Backed) : e.restoreFinish.Backed := by
  unfold Engine.restoreFinish
  split
  · next saved hSaved => exact fun hDone => ⟨saved, hSaved, hDone⟩
  · exact h

/-- Apart from a tick, an operation saves or recalls the snapshot, or it resets the task, or it
leaves both the snapshot and the finished flag alone. -/
theorem finish_perform_cases
    (hFinished : e.instruments.Confines (fun s => s.orderedTask.finished) Revision.isTaskBasics)
    (operation : Operation) :
    (∃ sample force, operation = .tick sample force) ∨
    operation = .saveFinish ∨ operation = .restoreFinish ∨
    (e.perform operation).1.situation.orderedTask.finished = false ∨
    ((e.perform operation).1.situation.orderedTask.finished = e.situation.orderedTask.finished ∧
      (e.perform operation).1.finish = e.finish) := by
  cases operation with
  | tick sample force => exact .inl ⟨sample, force, rfl⟩
  | saveFinish => exact .inr (.inl rfl)
  | restoreFinish => exact .inr (.inr (.inl rfl))
  | resetFlight full =>
      refine .inr (.inr (.inr (.inl ?_)))
      change (e.openJournal.resetFlight full).situation.orderedTask.finished = false
      rw [situation_resetFlight]
      refine (hFinished _ _ _ (by simp)).trans ?_
      cases full <;> rfl
  | idlePass exhaustive =>
      obtain ⟨warnings, memory, hSituation⟩ := situation_idlePass e.openJournal exhaustive
      refine .inr (.inr (.inr (.inr ⟨?_, by simp [Engine.perform]⟩)))
      change (e.openJournal.idlePass exhaustive).situation.orderedTask.finished = _
      rw [hSituation]
      exact hFinished _ _ _ (by simp)
  | startTask | setSettings =>
      exact .inr (.inr (.inr (.inr ⟨by simp [Engine.perform], by simp [Engine.perform]⟩)))
  | enterZone | setWaypoints | drainEvents => exact .inr (.inr (.inr (.inr ⟨rfl, rfl⟩)))

/-- Every operation keeps the invariant, the explicit ones that save and recall included. -/
theorem Backed.perform (h : e.Backed)
    (hFinished : e.instruments.Confines (fun s => s.orderedTask.finished) Revision.isTaskBasics)
    (operation : Operation) : (e.perform operation).1.Backed := by
  have hOpen : e.openJournal.Backed := h
  rcases finish_perform_cases hFinished operation with
    ⟨sample, force, rfl⟩ | rfl | rfl | hReset | ⟨hFlag, hSnapshot⟩
  · exact hOpen.tick hFinished sample force
  · exact fun hDone => ⟨e.situation, rfl, hDone⟩
  · exact hOpen.restoreFinish
  · exact backed_of_unfinished hReset
  · unfold Backed
    rwa [hFlag, hSnapshot]

/-- A finished task has its snapshot after every run of operations. -/
theorem Backed.run (h : e.Backed)
    (hFinished : e.instruments.Confines (fun s => s.orderedTask.finished) Revision.isTaskBasics)
    (operations : List Operation) : (e.run operations).Backed := by
  induction operations generalizing e with
  | nil => exact h
  | cons operation rest ih => exact ih (h.perform hFinished operation) (by simpa using hFinished)

/-- A landing on a finished task with a snapshot shows the snapshot. -/
theorem situation_landing {sample : Sample} {force : Bool} {saved : Situation}
    (hLanding : .landing ∈ (e.perform (.tick sample force)).1.recorded)
    (hDone : (e.openJournal.derive sample force).situation.orderedTask.finished = true)
    (hSaved : (e.openJournal.derive sample force).finish = some saved) :
    e.openJournal.reinstated sample force = some saved ∧
    (e.perform (.tick sample force)).1.situation =
      { saved with flight := (e.openJournal.derive sample force).situation.flight } := by
  obtain ⟨hWas, hNow⟩ := (landing_mem_recorded_iff e sample force).mp hLanding
  have hReinstated : e.openJournal.reinstated sample force = some saved := by
    unfold reinstated
    simp [hWas, hNow, hDone, hSaved]
  refine ⟨hReinstated, ?_⟩
  rcases tick_cases e.openJournal sample force with
    ⟨hNone, -, -⟩ | ⟨saved', hSome, hTick, -, -⟩ | ⟨hNone, -, -⟩
  · cases hNone.symm.trans hReinstated
  · obtain rfl : saved' = saved := Option.some.inj (hSome.symm.trans hReinstated)
    exact hTick
  · cases hNone.symm.trans hReinstated

end

/-- A new engine has no finished task. -/
theorem backed_powerUp {i : Instruments Memory}
    (hFinished : i.Confines (fun s => s.orderedTask.finished) Revision.isTaskBasics)
    (m : Memory) (settings : Settings) (cadence : Cadence) (waypoints : WaypointSource) :
    (powerUp i m settings cadence waypoints).Backed := by
  apply backed_of_unfinished
  simp only [powerUp, record_frame, situation_resetFlight]
  exact hFinished _ _ _ (by simp)

/-- A finished task always has a finished snapshot. It holds after every run of operations over
instruments of which only the basic task call decides whether the task is finished. So a landing on
a finished task brings a snapshot back, and neither that nor the recall of the snapshot by hand
makes the task unfinished again. -/
theorem finished_run_backed (i : Instruments Memory) (m : Memory) (settings : Settings)
    (cadence : Cadence) (waypoints : WaypointSource) (past : List Operation)
    (hFinished : i.Confines (fun s => s.orderedTask.finished) Revision.isTaskBasics) :
    let e := (powerUp i m settings cadence waypoints).run past
    (e.situation.orderedTask.finished = true →
      ∃ saved, e.finish = some saved ∧ saved.orderedTask.finished = true) ∧
    (∀ sample force, let derived := e.openJournal.derive sample force
      let after := (e.perform (.tick sample force)).1
      .landing ∈ after.recorded → derived.situation.orderedTask.finished = true →
        ∃ saved, e.openJournal.reinstated sample force = some saved ∧
          after.situation = { saved with flight := derived.situation.flight } ∧
          after.situation.orderedTask.finished = true) ∧
    (e.situation.orderedTask.finished = true →
      (e.perform .restoreFinish).1.situation.orderedTask.finished = true) := by
  intro e
  have hInstruments : e.instruments = i := by simp [e, powerUp]
  rw [← hInstruments] at hFinished
  have hBacked : e.Backed := by
    refine (backed_powerUp ?_ m settings cadence waypoints).run ?_ past
    · rwa [← hInstruments]
    · simpa [e] using hFinished
  have hOpen : e.openJournal.Backed := hBacked
  refine ⟨hBacked, ?_, ?_⟩
  · intro sample force derived after hLanding hDone
    obtain ⟨saved, hSaved, hSavedDone⟩ := hOpen.derive hFinished sample force hDone
    obtain ⟨hReinstated, hShown⟩ := situation_landing hLanding hDone hSaved
    refine ⟨saved, hReinstated, hShown, ?_⟩
    rw [hShown]
    exact hSavedDone
  · intro hDone
    change e.openJournal.restoreFinish.situation.orderedTask.finished = true
    rw [restoreFinish_eq]
    exact hOpen.finished_recalled hDone

/-- A tick whose sample carries the same time on both clocks. -/
def fixAt (time : Stamp) : Operation := .tick { clock := time, time := some time } false

/-- A finish that is saved again by hand, shown by a landing and recalled. -/
theorem recalled_finish_backed :
    let e := (powerUp touchAndGo () {} {} fun _ => none).run
      [fixAt 0, fixAt 1000, .saveFinish, fixAt 2000, .restoreFinish, fixAt 3000]
    touchAndGo.Confines (fun s => s.orderedTask.finished) Revision.isTaskBasics ∧
    e.situation.orderedTask.finished = true ∧
    (∃ saved, e.finish = some saved ∧ saved.orderedTask.finished = true) ∧
    .landing ∈ (e.perform (.tick { clock := 4000 } false)).1.recorded ∧
    (e.perform (.tick { clock := 4000 } false)).1.situation.orderedTask.finished = true ∧
    (e.perform .restoreFinish).1.situation.orderedTask.finished = true := by
  obtain ⟨hBacked, hLanding, hRecall⟩ := finished_run_backed touchAndGo () {} {} (fun _ => none)
    [fixAt 0, fixAt 1000, .saveFinish, fixAt 2000, .restoreFinish, fixAt 3000]
    touchAndGo_confines_finished
  obtain ⟨saved, -, -, hDone⟩ := hLanding { clock := 4000 } false
    (by decide +kernel) (by decide +kernel)
  exact ⟨touchAndGo_confines_finished, by decide +kernel, hBacked (by decide +kernel),
    by decide +kernel, hDone, hRecall (by decide +kernel)⟩

/-- The situations of a run that a landing on a finished task may show. -/
structure Landmarks where
  /-- At the finish line: right after the basic task call of the tick that recorded the latest
  finish. -/
  line : Option Situation := none
  /-- What the latest takeoff has left, if it was recorded with that finish or later. -/
  takeoff : Option Situation := none

/-- The landmarks when a tick comes to its flight phase: those before, or the line alone if the tick
records a finish. -/
def crossed (e : Engine Memory) (seen : Landmarks) (sample : Sample) (force : Bool) : Landmarks :=
  if .taskFinished ∈ (e.perform (.tick sample force)).1.recorded then
    { line := some (e.openJournal.afterTaskBasics sample force).situation }
  else seen

def landmarksAfter (e : Engine Memory) (seen : Landmarks) : Operation → Landmarks
  | .tick sample force =>
    let after := (e.perform (.tick sample force)).1
    let crossed := e.crossed seen sample force
    if .takeoff ∈ after.recorded then { crossed with takeoff := some after.situation }
    else crossed
  | _ => seen

def landmarks (e : Engine Memory) (seen : Landmarks) : List Operation → Landmarks
  | [] => seen
  | operation :: rest =>
    (e.perform operation).1.landmarks (e.landmarksAfter seen operation) rest

theorem landmarks_concat (e : Engine Memory) (seen : Landmarks) (past : List Operation)
    (operation : Operation) :
    e.landmarks seen (past ++ [operation]) =
      (e.run past).landmarksAfter (e.landmarks seen past) operation := by
  induction past generalizing e seen with
  | nil => rfl
  | cons first rest ih => exact ih _ _

/-- The snapshot of a finished task is the last of the landmarks. -/
def Keeps (e : Engine Memory) (seen : Landmarks) : Prop :=
  e.situation.orderedTask.finished = true →
    ∃ line, seen.line = some line ∧ e.finish = some (seen.takeoff.getD line)

section

variable {e : Engine Memory} {seen : Landmarks}

/-- Crossing the finish line is the only thing before the flight phase that writes the snapshot. -/
theorem Keeps.derive (h : e.Keeps seen)
    (hFinished : e.instruments.Confines (fun s => s.orderedTask.finished) Revision.isTaskBasics)
    (sample : Sample) (force : Bool) :
    (e.openJournal.derive sample force).Keeps (e.crossed seen sample force) := by
  obtain ⟨hBefore, hAfter⟩ := finished_derive (e := e.openJournal) hFinished sample force
  intro hDone
  simp only [crossed, taskFinished_mem_recorded_iff]
  rw [finish_derive]
  by_cases hEdge : e.openJournal.finishesTask sample force = true
  · simp [hEdge]
  -- Without an edge the task was finished before, and its snapshot is kept.
  · have hWas : e.situation.orderedTask.finished = true := by
      have hWritten := hAfter.symm.trans hDone
      change (e.openJournal.afterTaskBasics sample force).situation.orderedTask.finished = true
        at hWritten
      simpa [finishesTask, hBefore, hWritten] using hEdge
    simpa [hEdge] using h hWas

/-- Without a takeoff a tick adds no landmark but the finish line. -/
theorem landmarksAfter_of_not_takeoff {sample : Sample} {force : Bool}
    (h : .takeoff ∉ (e.perform (.tick sample force)).1.recorded) :
    e.landmarksAfter seen (.tick sample force) = e.crossed seen sample force :=
  if_neg h

/-- A takeoff overwrites the snapshot with what it finds, so from then on it is the situation of
that takeoff. -/
theorem Keeps.tick (h : e.Keeps seen)
    (hFinished : e.instruments.Confines (fun s => s.orderedTask.finished) Revision.isTaskBasics)
    (sample : Sample) (force : Bool) :
    (e.perform (.tick sample force)).1.Keeps (e.landmarksAfter seen (.tick sample force)) := by
  have hDerived := h.derive hFinished sample force
  have hTakeoff := takeoff_mem_recorded_iff e sample force
  have hAfter : (e.perform (.tick sample force)).1 = ((e.openJournal.derive sample force).phaseEdge
    e.situation.flight.flying).checkIdle.1 := rfl
  rcases phaseEdge_cases (e.openJournal.derive sample force) e.situation.flight.flying with
    ⟨hNow, hWas, hCase⟩ | ⟨hNow, -, hCase⟩ | ⟨hSame, hCase⟩
  · have hLanded : e.landmarksAfter seen (.tick sample force) = { e.crossed seen sample force with
        takeoff := some (e.perform (.tick sample force)).1.situation } :=
      if_pos (hTakeoff.mpr ⟨hWas, hNow⟩)
    rw [hLanded]
    intro hDone
    have hReset := hFinished (.resetAirData false) (e.openJournal.derive sample force).situation
      (e.openJournal.derive sample force).memory (by simp)
    obtain ⟨line, hLine, -⟩ := hDerived (by simpa [hAfter, hCase, hReset] using hDone)
    exact ⟨line, hLine, by simp [hAfter, hCase]⟩
  · rw [landmarksAfter_of_not_takeoff (by simp [hTakeoff, hNow]), hAfter, hCase]
    intro hDone
    have hWritten : (e.openJournal.derive sample force).situation.orderedTask.finished = true := by
      by_cases hNot : (e.openJournal.derive sample force).situation.orderedTask.finished = true
      · exact hNot
      · simp [situation_land, hNot] at hDone
    simpa using hDerived hWritten
  · rw [landmarksAfter_of_not_takeoff (by simp [hTakeoff, hSame]), hAfter, hCase]
    exact hDerived

/-- Among the operations that neither save nor recall, ticks and resets write the snapshot. -/
theorem Keeps.perform (h : e.Keeps seen)
    (hFinished : e.instruments.Confines (fun s => s.orderedTask.finished) Revision.isTaskBasics)
    {operation : Operation} (hSave : operation ≠ .saveFinish)
    (hRecall : operation ≠ .restoreFinish) :
    (e.perform operation).1.Keeps (e.landmarksAfter seen operation) := by
  by_cases hTick : ∃ sample force, operation = .tick sample force
  · obtain ⟨sample, force, rfl⟩ := hTick
    exact h.tick hFinished sample force
  have hSeen : e.landmarksAfter seen operation = seen := by
    cases operation with
    | tick sample force => exact absurd ⟨sample, force, rfl⟩ hTick
    | idlePass | resetFlight | startTask | enterZone | saveFinish | restoreFinish | setSettings
    | setWaypoints | drainEvents => rfl
  rw [hSeen]
  rcases finish_perform_cases hFinished operation with
    hTicks | hSaves | hRecalls | hReset | ⟨hFlag, hSnapshot⟩
  · exact absurd hTicks hTick
  · exact absurd hSaves hSave
  · exact absurd hRecalls hRecall
  · intro hDone
    cases hReset.symm.trans hDone
  · unfold Keeps
    rwa [hFlag, hSnapshot]

/-- After every run without explicit save and recall the snapshot is that of the last landmark. -/
theorem Keeps.run (h : e.Keeps seen)
    (hFinished : e.instruments.Confines (fun s => s.orderedTask.finished) Revision.isTaskBasics)
    {operations : List Operation} (hSave : .saveFinish ∉ operations)
    (hRecall : .restoreFinish ∉ operations) :
    (e.run operations).Keeps (e.landmarks seen operations) := by
  induction operations generalizing e seen with
  | nil => exact h
  | cons operation rest ih =>
      simp only [List.mem_cons, not_or] at hSave hRecall
      have hStep := h.perform hFinished (Ne.symm hSave.1) (Ne.symm hRecall.1)
      exact ih hStep (by simpa using hFinished) hSave.2 hRecall.2

end

/-- What a landing on a finished task shows, after any run in which the snapshot is not saved or
recalled by hand: the situation that the latest takeoff has left if there was one with the latest
finish or after it, else the situation at the finish line, with the flight group that this tick has
written. So the landing shows the finish line exactly if no takeoff has put something else in its
place. -/
theorem landing_eq_finishLine_iff (i : Instruments Memory) (m : Memory) (settings : Settings)
    (cadence : Cadence) (waypoints : WaypointSource) (past : List Operation) (sample : Sample)
    (force : Bool)
    (hFinished : i.Confines (fun s => s.orderedTask.finished) Revision.isTaskBasics)
    (hSave : .saveFinish ∉ past) (hRecall : .restoreFinish ∉ past) :
    let start := powerUp i m settings cadence waypoints
    let e := start.run past
    let derived := e.openJournal.derive sample force
    let flight := derived.situation.flight
    let after := (e.perform (.tick sample force)).1
    let seen := start.landmarks {} (past ++ [.tick sample force])
    .landing ∈ after.recorded → derived.situation.orderedTask.finished = true →
      ∃ line, seen.line = some line ∧
        after.situation = { seen.takeoff.getD line with flight := flight } ∧
        (after.situation = { line with flight := flight } ↔
          ∀ left, seen.takeoff = some left →
            ({ left with flight := flight } : Situation) = { line with flight := flight }) := by
  intro start e derived flight after seen hLanding hDone
  have hStart : start.instruments = i := by simp [start, powerUp]
  have hKeeps : e.Keeps (start.landmarks {} past) := by
    refine Keeps.run ?_ (by rwa [hStart]) hSave hRecall
    intro hNever
    obtain ⟨saved, hSaved, -⟩ := backed_powerUp hFinished m settings cadence waypoints hNever
    cases hSaved
  have hSeen : seen = e.crossed (start.landmarks {} past) sample force := by
    have hGrounded : .takeoff ∉ after.recorded := by
      rw [landing_mem_recorded_iff] at hLanding
      simp [after, takeoff_mem_recorded_iff, hLanding]
    exact (landmarks_concat ..).trans (landmarksAfter_of_not_takeoff hGrounded)
  obtain ⟨line, hLine, hSaved⟩ := hKeeps.derive (by simpa [e, hStart] using hFinished) sample force
    hDone
  rw [← hSeen] at hLine hSaved
  have hShown := (situation_landing hLanding hDone hSaved).2
  refine ⟨line, hLine, hShown, ?_⟩
  rw [show after.situation = { seen.takeoff.getD line with flight := flight } from hShown]
  cases hTakeoff : seen.takeoff with
  | none => simp
  | some left => simp

/-- The second landing shows what the second takeoff has left, with a trace history that begins
after the first landing, and not the finish line, at which the history was empty. -/
theorem secondLanding_ne_finishLine :
    let start := powerUp touchAndGo () {} {} fun _ => none
    let past := [fixAt 0, fixAt 1000, fixAt 2000, fixAt 3000]
    let after := ((start.run past).perform (fixAt 4000)).1
    touchAndGo.Confines (fun s => s.orderedTask.finished) Revision.isTaskBasics ∧
    .saveFinish ∉ past ∧ .restoreFinish ∉ past ∧
    after.recorded = [.landing] ∧ after.situation.orderedTask.finished = true ∧
    ∃ line, (start.landmarks {} (past ++ [fixAt 4000])).line = some line ∧
      line.trace.toList = [] ∧ after.situation.trace.toList.map TraceEntry.time = [3000] ∧
      after.situation ≠ { line with flight := after.situation.flight } := by
  intro start past after
  have hLine : ((start.landmarks {} (past ++ [fixAt 4000])).line.map fun line =>
      line.trace.toList.map TraceEntry.time) = some [] := by
    decide +kernel
  have hShown : after.situation.trace.toList.map TraceEntry.time = [3000] := by
    decide +kernel
  obtain ⟨line, hSeen, hEmpty⟩ := Option.map_eq_some_iff.mp hLine
  rw [List.map_eq_nil_iff] at hEmpty
  refine ⟨touchAndGo_confines_finished, by simp [past, fixAt], by simp [past, fixAt],
    by decide +kernel, by decide +kernel, line, hSeen, hEmpty, hShown, ?_⟩
  intro hSame
  rw [hSame, hEmpty] at hShown
  cases hShown

/-- The first landing of the same flight shows the finish line. -/
theorem firstLanding_eq_finishLine :
    let start := powerUp touchAndGo () {} {} fun _ => none
    let past := [fixAt 0, fixAt 1000]
    let sample : Sample := { clock := 2000, time := some 2000 }
    let e := start.run past
    let flight := (e.openJournal.derive sample false).situation.flight
    let after := (e.perform (.tick sample false)).1
    touchAndGo.Confines (fun s => s.orderedTask.finished) Revision.isTaskBasics ∧
    .saveFinish ∉ past ∧ .restoreFinish ∉ past ∧ .landing ∈ after.recorded ∧
    (e.openJournal.derive sample false).situation.orderedTask.finished = true ∧
    ∃ line, (start.landmarks {} (past ++ [.tick sample false])).line = some line ∧
      after.situation = { line with flight := flight } := by
  obtain ⟨line, hLine, -, hIff⟩ := landing_eq_finishLine_iff touchAndGo () {} {} (fun _ => none)
    [fixAt 0, fixAt 1000] { clock := 2000, time := some 2000 } false touchAndGo_confines_finished
    (by simp [fixAt]) (by simp [fixAt]) (by decide +kernel) (by decide +kernel)
  have hTakeoff : ((powerUp touchAndGo () {} {} fun _ => none).landmarks {}
      ([fixAt 0, fixAt 1000] ++
        [.tick { clock := 2000, time := some 2000 } false])).takeoff.isNone = true := by
    decide +kernel
  refine ⟨touchAndGo_confines_finished, by simp [fixAt], by simp [fixAt], by decide +kernel,
    by decide +kernel, line, hLine, hIff.mpr ?_⟩
  intro left hLeft
  rw [hLeft] at hTakeoff
  cases hTakeoff

end Soaring.Engine

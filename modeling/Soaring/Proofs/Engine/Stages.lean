import Soaring.Proofs.Team.Reference

/-!
The stages of a tick and what each of them leaves alone. A tick passes through three named states:
after the air data were brought up to date, after the basic task call, and before the team
computations. Statements about calls of a tick refer to these states.
-/
namespace Soaring

namespace Situation

/-- Expiry changes gates and the own code, so it keeps every group that has no gate. -/
@[simp]
theorem expire_frame (s : Situation) (now : Stamp) :
    (s.expire now).localTime = s.localTime ∧ (s.expire now).flight = s.flight ∧
    (s.expire now).circling = s.circling ∧ (s.expire now).terrain = s.terrain ∧
    (s.expire now).task = s.task ∧ (s.expire now).orderedTask = s.orderedTask ∧
    (s.expire now).workingBand = s.workingBand ∧ (s.expire now).varioScale = s.varioScale ∧
    (s.expire now).trace = s.trace := by
  unfold expire dropStaleOwnCode
  split <;> exact ⟨rfl, rfl, rfl, rfl, rfl, rfl, rfl, rfl, rfl⟩

end Situation

namespace Engine

variable {Memory : Type}

/-- A tick after the call that brings the air data up to date. -/
def afterAirBasics (e : Engine Memory) (sample : Sample) : Engine Memory :=
  (e.accept sample).revise (.airBasics ⟨sample, e.settings⟩)

/-- A tick after the call that follows the task. -/
def afterTaskBasics (e : Engine Memory) (sample : Sample) (force : Bool) : Engine Memory :=
  (e.afterAirBasics sample).revise (.taskBasics ⟨sample, e.settings⟩ force)

/-- A tick when its team computations begin. -/
def beforeTeam (e : Engine Memory) (sample : Sample) (force : Bool) : Engine Memory :=
  let feed : Feed := ⟨sample, e.settings⟩
  let wasFinished := (e.afterAirBasics sample).situation.orderedTask.finished
  ((e.afterTaskBasics sample force).finishEdge wasFinished).updateBand
    |>.revise (.taskMore feed force)
    |>.revise (.taskAuto feed force)
    |>.revise (.airVertical feed)
    |>.observe (.climbEvents sample)
    |>.revise (.cruise feed)

/-- The rest of a tick from its team computations on. -/
theorem derive_eq (e : Engine Memory) (sample : Sample) (force : Bool) :
    e.derive sample force =
      ((((e.beforeTeam sample force).updateTeam.updateTrace.updateScale).observe
        (.monitors ⟨sample, e.settings⟩)).updateFuel).revise
          (.flightPhase ⟨sample, e.settings⟩) := rfl

@[simp]
theorem situation_accept (e : Engine Memory) (sample : Sample) :
    (e.accept sample).situation = ({ e.situation with
      localTime := Situation.localTimeOf sample e.settings } : Situation).expire
        sample.clock := rfl

/-- A sample that comes in changes the situation and the last sample. -/
@[simp]
theorem accept_frame (e : Engine Memory) (sample : Sample) :
    (e.accept sample).instruments = e.instruments ∧ (e.accept sample).memory = e.memory ∧
    (e.accept sample).settings = e.settings ∧ (e.accept sample).cadence = e.cadence ∧
    (e.accept sample).waypoints = e.waypoints ∧ (e.accept sample).sample = sample ∧
    (e.accept sample).finish = e.finish ∧ (e.accept sample).tracker = e.tracker ∧
    (e.accept sample).idleClock = e.idleClock ∧
    (e.accept sample).traceClock = e.traceClock ∧ (e.accept sample).events = e.events ∧
    (e.accept sample).recorded = e.recorded :=
  ⟨rfl, rfl, rfl, rfl, rfl, rfl, rfl, rfl, rfl, rfl, rfl, rfl⟩

/-- The situation does not change when a task is finished. -/
@[simp]
theorem finishEdge_frame (e : Engine Memory) (wasFinished : Bool) :
    (e.finishEdge wasFinished).instruments = e.instruments ∧
    (e.finishEdge wasFinished).memory = e.memory ∧
    (e.finishEdge wasFinished).settings = e.settings ∧
    (e.finishEdge wasFinished).cadence = e.cadence ∧
    (e.finishEdge wasFinished).waypoints = e.waypoints ∧
    (e.finishEdge wasFinished).sample = e.sample ∧
    (e.finishEdge wasFinished).situation = e.situation ∧
    (e.finishEdge wasFinished).tracker = e.tracker ∧
    (e.finishEdge wasFinished).idleClock = e.idleClock ∧
    (e.finishEdge wasFinished).traceClock = e.traceClock := by
  unfold finishEdge finishTask saveFinish
  split <;> simp

/-- The snapshot is saved on the rising edge of the flag, on which the event is recorded too. -/
@[simp]
theorem finish_finishEdge (e : Engine Memory) (wasFinished : Bool) :
    (e.finishEdge wasFinished).finish =
      if !wasFinished && e.situation.orderedTask.finished then some e.situation else e.finish := by
  unfold finishEdge finishTask saveFinish
  split <;> simp

@[simp]
theorem recorded_finishEdge (e : Engine Memory) (wasFinished : Bool) :
    (e.finishEdge wasFinished).recorded = e.recorded ++
      if !wasFinished && e.situation.orderedTask.finished then [.taskFinished] else [] := by
  unfold finishEdge finishTask saveFinish
  split
  · rw [recorded_record]
    change (e.note _).recorded ++ _ = _
    simp
  · simp

@[simp]
theorem events_finishEdge (e : Engine Memory) (wasFinished : Bool) :
    (e.finishEdge wasFinished).events =
      if !wasFinished && e.situation.orderedTask.finished then e.events.push .taskFinished
      else e.events := by
  unfold finishEdge finishTask saveFinish
  split <;> simp

@[simp]
theorem updateBand_frame (e : Engine Memory) :
    e.updateBand.instruments = e.instruments ∧ e.updateBand.memory = e.memory ∧
    e.updateBand.settings = e.settings ∧ e.updateBand.cadence = e.cadence ∧
    e.updateBand.waypoints = e.waypoints ∧ e.updateBand.sample = e.sample ∧
    e.updateBand.finish = e.finish ∧ e.updateBand.tracker = e.tracker ∧
    e.updateBand.idleClock = e.idleClock ∧ e.updateBand.traceClock = e.traceClock ∧
    e.updateBand.events = e.events ∧ e.updateBand.recorded = e.recorded := by
  simp [updateBand]

@[simp]
theorem situation_updateBand (e : Engine Memory) :
    e.updateBand.situation = { e.situation with
      workingBand := .compute e.situation.terrain e.settings.task.safetyHeight
        e.sample.usableAltitude e.statistics } := rfl

@[simp]
theorem updateScale_frame (e : Engine Memory) :
    e.updateScale.instruments = e.instruments ∧ e.updateScale.memory = e.memory ∧
    e.updateScale.settings = e.settings ∧ e.updateScale.cadence = e.cadence ∧
    e.updateScale.waypoints = e.waypoints ∧ e.updateScale.sample = e.sample ∧
    e.updateScale.finish = e.finish ∧ e.updateScale.tracker = e.tracker ∧
    e.updateScale.idleClock = e.idleClock ∧ e.updateScale.traceClock = e.traceClock ∧
    e.updateScale.events = e.events ∧ e.updateScale.recorded = e.recorded := by
  simp [updateScale]

@[simp]
theorem situation_updateScale (e : Engine Memory) :
    e.updateScale.situation = { e.situation with
      varioScale := .compute e.settings.polar e.statistics } := rfl

@[simp]
theorem updateFuel_frame (e : Engine Memory) :
    e.updateFuel.instruments = e.instruments ∧ e.updateFuel.memory = e.memory ∧
    e.updateFuel.settings = e.settings ∧ e.updateFuel.cadence = e.cadence ∧
    e.updateFuel.waypoints = e.waypoints ∧ e.updateFuel.sample = e.sample ∧
    e.updateFuel.finish = e.finish ∧ e.updateFuel.tracker = e.tracker ∧
    e.updateFuel.idleClock = e.idleClock ∧ e.updateFuel.traceClock = e.traceClock ∧
    e.updateFuel.events = e.events ∧ e.updateFuel.recorded = e.recorded :=
  ⟨rfl, rfl, rfl, rfl, rfl, rfl, rfl, rfl, rfl, rfl, rfl, rfl⟩

@[simp]
theorem situation_updateFuel (e : Engine Memory) :
    e.updateFuel.situation = { e.situation with
      fuel := e.situation.fuel.update e.settings.plane e.sample.clock } := rfl

/-- The outcome of the team computations, if they were made now. -/
def tracking (e : Engine Memory) : Team.Tracking :=
  e.tracker.track e.cadence.teamCode e.feed e.waypoints e.situation.team

/-- The team computations write the tracker and the team group. -/
@[simp]
theorem updateTeam_frame (e : Engine Memory) :
    e.updateTeam.instruments = e.instruments ∧ e.updateTeam.memory = e.memory ∧
    e.updateTeam.settings = e.settings ∧ e.updateTeam.cadence = e.cadence ∧
    e.updateTeam.waypoints = e.waypoints ∧ e.updateTeam.sample = e.sample ∧
    e.updateTeam.finish = e.finish ∧ e.updateTeam.idleClock = e.idleClock ∧
    e.updateTeam.traceClock = e.traceClock ∧ e.updateTeam.events = e.events :=
  ⟨rfl, rfl, rfl, rfl, rfl, rfl, rfl, rfl, rfl, rfl⟩

@[simp]
theorem tracker_updateTeam (e : Engine Memory) :
    e.updateTeam.tracker = e.tracking.tracker := rfl

@[simp]
theorem situation_updateTeam (e : Engine Memory) :
    e.updateTeam.situation = { e.situation with team := e.tracking.team } := rfl

@[simp]
theorem recorded_updateTeam (e : Engine Memory) : e.updateTeam.recorded = e.recorded := by
  have hNone : e.tracking.entries.filterMap Entry.event? = [] :=
    List.filterMap_eq_nil_iff.mpr fun entry h => Entry.event?_eq_none
      (Entry.not_isEffect_of_ofReference (Team.ofReference_of_mem_track h))
  change (e.enter e.tracking.entries).recorded = e.recorded
  rw [recorded_enter, hNone, List.append_nil]

/-- What the trace clock becomes and says when a sample comes in. Without GPS time it is not
asked. -/
def traceStep (e : Engine Memory) (sample : Sample) : DeltaClock × TimeStep :=
  match sample.time with
  | none => (e.traceClock, .pending)
  | some time => e.traceClock.feed time e.cadence.trace

/-- A trace history after a step of its clock. -/
def traceAfter (trace : Trace) (sample : Sample) : TimeStep → Trace
  | .pending => trace
  | .elapsed _ => trace.append sample
  | .warp => .empty

/-- A step of the trace clock is noted if GPS time went back. -/
def traceNotes : TimeStep → List Entry
  | .pending | .elapsed _ => []
  | .warp => [.note .timeWarp]

/-- What becomes of a tick at its trace history, in one equation. -/
theorem updateTrace_eq (e : Engine Memory) :
    e.updateTrace =
      { e.enter (traceNotes (e.traceStep e.sample).2) with
        traceClock := (e.traceStep e.sample).1
        situation := { e.situation with
          trace := traceAfter e.situation.trace e.sample (e.traceStep e.sample).2 } } := by
  have hSilent : e.enter [] = e := by simp [enter]
  unfold updateTrace traceStep
  cases e.sample.time with
  | none =>
      dsimp only [traceNotes]
      rw [hSilent]
      rfl
  | some time =>
      dsimp only
      generalize e.traceClock.feed time e.cadence.trace = fed
      obtain ⟨clock, step⟩ := fed
      cases step with
      | warp => rfl
      | pending | elapsed =>
          dsimp only [traceNotes]
          rw [hSilent]
          rfl

@[simp]
theorem updateTrace_frame (e : Engine Memory) :
    e.updateTrace.instruments = e.instruments ∧ e.updateTrace.memory = e.memory ∧
    e.updateTrace.settings = e.settings ∧ e.updateTrace.cadence = e.cadence ∧
    e.updateTrace.waypoints = e.waypoints ∧ e.updateTrace.sample = e.sample ∧
    e.updateTrace.finish = e.finish ∧ e.updateTrace.tracker = e.tracker ∧
    e.updateTrace.idleClock = e.idleClock ∧ e.updateTrace.events = e.events ∧
    e.updateTrace.recorded = e.recorded := by
  have hNone : (traceNotes (e.traceStep e.sample).2).filterMap Entry.event? = [] := by
    cases (e.traceStep e.sample).2 <;> rfl
  rw [updateTrace_eq]
  refine ⟨rfl, rfl, rfl, rfl, rfl, rfl, rfl, rfl, rfl, rfl, ?_⟩
  show (e.enter (traceNotes (e.traceStep e.sample).2)).recorded = e.recorded
  rw [recorded_enter, hNone, List.append_nil]

@[simp]
theorem traceClock_updateTrace (e : Engine Memory) :
    e.updateTrace.traceClock = (e.traceStep e.sample).1 := by
  rw [updateTrace_eq]

@[simp]
theorem situation_updateTrace (e : Engine Memory) :
    e.updateTrace.situation = { e.situation with
      trace := traceAfter e.situation.trace e.sample (e.traceStep e.sample).2 } := by
  rw [updateTrace_eq]

/-- The basic task call of a tick finds the task unfinished and leaves it finished. -/
def finishesTask (e : Engine Memory) (sample : Sample) (force : Bool) : Bool :=
  !(e.afterAirBasics sample).situation.orderedTask.finished &&
    (e.afterTaskBasics sample force).situation.orderedTask.finished

/-- Two calls into a tick, engine and record are still those of before. -/
@[simp]
theorem afterTaskBasics_frame (e : Engine Memory) (sample : Sample) (force : Bool) :
    (e.afterTaskBasics sample force).instruments = e.instruments ∧
    (e.afterTaskBasics sample force).settings = e.settings ∧
    (e.afterTaskBasics sample force).cadence = e.cadence ∧
    (e.afterTaskBasics sample force).waypoints = e.waypoints ∧
    (e.afterTaskBasics sample force).sample = sample ∧
    (e.afterTaskBasics sample force).finish = e.finish ∧
    (e.afterTaskBasics sample force).tracker = e.tracker ∧
    (e.afterTaskBasics sample force).idleClock = e.idleClock ∧
    (e.afterTaskBasics sample force).traceClock = e.traceClock ∧
    (e.afterTaskBasics sample force).events = e.events ∧
    (e.afterTaskBasics sample force).recorded = e.recorded := by
  simp [afterTaskBasics, afterAirBasics]

/-- Up to its team computations a tick has moved neither the tracker nor a clock. -/
@[simp]
theorem beforeTeam_frame (e : Engine Memory) (sample : Sample) (force : Bool) :
    (e.beforeTeam sample force).instruments = e.instruments ∧
    (e.beforeTeam sample force).settings = e.settings ∧
    (e.beforeTeam sample force).cadence = e.cadence ∧
    (e.beforeTeam sample force).waypoints = e.waypoints ∧
    (e.beforeTeam sample force).sample = sample ∧
    (e.beforeTeam sample force).tracker = e.tracker ∧
    (e.beforeTeam sample force).idleClock = e.idleClock ∧
    (e.beforeTeam sample force).traceClock = e.traceClock := by
  simp [beforeTeam]

@[simp]
theorem derive_frame (e : Engine Memory) (sample : Sample) (force : Bool) :
    (e.derive sample force).instruments = e.instruments ∧
    (e.derive sample force).settings = e.settings ∧
    (e.derive sample force).cadence = e.cadence ∧
    (e.derive sample force).waypoints = e.waypoints ∧
    (e.derive sample force).sample = sample ∧
    (e.derive sample force).idleClock = e.idleClock := by
  simp [derive_eq]

/-- The tracker after a tick is that of its team computations, as nothing later writes it. -/
theorem tracker_derive (e : Engine Memory) (sample : Sample) (force : Bool) :
    (e.derive sample force).tracker = (e.beforeTeam sample force).tracking.tracker := by
  simp [derive_eq]

/-- The trace clock follows the samples and nothing else that happens in a tick. -/
theorem traceClock_derive (e : Engine Memory) (sample : Sample) (force : Bool) :
    (e.derive sample force).traceClock = (e.traceStep sample).1 := by
  simp [derive_eq, traceStep]

/-- Up to its flight phase a tick touches the snapshot only to save the finish. -/
theorem finish_derive (e : Engine Memory) (sample : Sample) (force : Bool) :
    (e.derive sample force).finish =
      if e.finishesTask sample force then some (e.afterTaskBasics sample force).situation
      else e.finish := by
  simp [derive_eq, beforeTeam, finishesTask]

/-- Up to its flight phase a tick can only record the finish. -/
theorem recorded_derive (e : Engine Memory) (sample : Sample) (force : Bool) :
    (e.derive sample force).recorded =
      e.recorded ++ if e.finishesTask sample force then [.taskFinished] else [] := by
  simp [derive_eq, beforeTeam, finishesTask]

theorem events_derive (e : Engine Memory) (sample : Sample) (force : Bool) :
    (e.derive sample force).events =
      if e.finishesTask sample force then e.events.push .taskFinished else e.events := by
  simp [derive_eq, beforeTeam, finishesTask]

end Engine

end Soaring

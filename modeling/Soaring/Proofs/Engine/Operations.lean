import Soaring.Proofs.Engine.Stages
import Soaring.Proofs.Situation.Clearing

/-!
What each operation of a caller does to each part of an engine. The flight phase of a tick has three
outcomes, of which only a landing on a finished task brings back a snapshot.
-/
namespace Soaring.Engine

variable {Memory : Type}

@[simp]
theorem saveFinish_frame (e : Engine Memory) :
    e.saveFinish.instruments = e.instruments ∧ e.saveFinish.memory = e.memory ∧
    e.saveFinish.settings = e.settings ∧ e.saveFinish.cadence = e.cadence ∧
    e.saveFinish.waypoints = e.waypoints ∧ e.saveFinish.sample = e.sample ∧
    e.saveFinish.situation = e.situation ∧ e.saveFinish.finish = some e.situation ∧
    e.saveFinish.tracker = e.tracker ∧ e.saveFinish.idleClock = e.idleClock ∧
    e.saveFinish.traceClock = e.traceClock ∧ e.saveFinish.events = e.events ∧
    e.saveFinish.recorded = e.recorded :=
  ⟨rfl, rfl, rfl, rfl, rfl, rfl, rfl, rfl, rfl, rfl, rfl, rfl, rfl⟩

/-- The situation that the snapshot would bring back: without one it is the present situation. -/
def recalled (e : Engine Memory) : Situation :=
  match e.finish with
  | some saved => { saved with flight := e.situation.flight }
  | none => e.situation

/-- Bringing back the snapshot replaces the situation and nothing else. -/
theorem restoreFinish_eq (e : Engine Memory) :
    e.restoreFinish = { e with situation := e.recalled } := by
  obtain ⟨_, _, _, _, _, _, _, finish, _, _, _, _, _⟩ := e
  cases finish <;> rfl

@[simp]
theorem restoreFinish_frame (e : Engine Memory) :
    e.restoreFinish.instruments = e.instruments ∧ e.restoreFinish.memory = e.memory ∧
    e.restoreFinish.settings = e.settings ∧ e.restoreFinish.cadence = e.cadence ∧
    e.restoreFinish.waypoints = e.waypoints ∧ e.restoreFinish.sample = e.sample ∧
    e.restoreFinish.situation = e.recalled ∧ e.restoreFinish.finish = e.finish ∧
    e.restoreFinish.tracker = e.tracker ∧ e.restoreFinish.idleClock = e.idleClock ∧
    e.restoreFinish.traceClock = e.traceClock ∧ e.restoreFinish.events = e.events ∧
    e.restoreFinish.recorded = e.recorded := by
  rw [restoreFinish_eq]
  exact ⟨rfl, rfl, rfl, rfl, rfl, rfl, rfl, rfl, rfl, rfl, rfl, rfl, rfl⟩

/-- The flight group is always that of the present. -/
@[simp]
theorem flight_recalled (e : Engine Memory) : e.recalled.flight = e.situation.flight := by
  unfold recalled
  split <;> rfl

/-- A takeoff saves what it shows, which is the situation after the reset of the air data. -/
@[simp]
theorem takeOff_frame (e : Engine Memory) :
    e.takeOff.instruments = e.instruments ∧ e.takeOff.settings = e.settings ∧
    e.takeOff.cadence = e.cadence ∧ e.takeOff.waypoints = e.waypoints ∧
    e.takeOff.sample = e.sample ∧ e.takeOff.finish = some e.takeOff.situation ∧
    e.takeOff.tracker = e.tracker ∧ e.takeOff.idleClock = e.idleClock ∧
    e.takeOff.traceClock = e.traceClock ∧ e.takeOff.events = e.events.push .takeoff ∧
    e.takeOff.recorded = e.recorded ++ [.takeoff] := by
  simp [takeOff]

/-- At a takeoff the instruments may write the situation once more. -/
@[simp]
theorem situation_takeOff (e : Engine Memory) :
    e.takeOff.situation =
      (e.instruments.revise (.resetAirData false) e.situation e.memory).1 := by
  simp [takeOff]

/-- A landing leaves the snapshot in its slot. -/
@[simp]
theorem land_frame (e : Engine Memory) :
    e.land.instruments = e.instruments ∧ e.land.settings = e.settings ∧
    e.land.cadence = e.cadence ∧ e.land.waypoints = e.waypoints ∧
    e.land.sample = e.sample ∧ e.land.finish = e.finish ∧
    e.land.tracker = e.tracker ∧ e.land.idleClock = e.idleClock ∧
    e.land.traceClock = e.traceClock ∧ e.land.events = e.events.push .landing ∧
    e.land.recorded = e.recorded ++ [.landing] := by
  unfold land
  dsimp only
  split <;> simp

/-- The snapshot comes back on a landing if the task is finished. -/
theorem situation_land (e : Engine Memory) :
    e.land.situation =
      if e.situation.orderedTask.finished then e.recalled else e.situation := by
  unfold land
  dsimp only
  split
  · next h => simp_all [recalled]
  · next h => simp_all

/-- The flight phase makes a takeoff, a landing or nothing of what it finds. -/
theorem phaseEdge_cases (e : Engine Memory) (wasFlying : Bool) :
    (e.situation.flight.flying = true ∧ wasFlying = false ∧ e.phaseEdge wasFlying = e.takeOff) ∨
    (e.situation.flight.flying = false ∧ wasFlying = true ∧ e.phaseEdge wasFlying = e.land) ∨
    (e.situation.flight.flying = wasFlying ∧ e.phaseEdge wasFlying = e) := by
  unfold phaseEdge
  cases e.situation.flight.flying <;> cases wasFlying <;> simp

@[simp]
theorem phaseEdge_frame (e : Engine Memory) (wasFlying : Bool) :
    (e.phaseEdge wasFlying).instruments = e.instruments ∧
    (e.phaseEdge wasFlying).settings = e.settings ∧
    (e.phaseEdge wasFlying).cadence = e.cadence ∧
    (e.phaseEdge wasFlying).waypoints = e.waypoints ∧
    (e.phaseEdge wasFlying).sample = e.sample ∧
    (e.phaseEdge wasFlying).tracker = e.tracker ∧
    (e.phaseEdge wasFlying).traceClock = e.traceClock := by
  rcases phaseEdge_cases e wasFlying with ⟨-, -, h⟩ | ⟨-, -, h⟩ | ⟨-, h⟩ <;> simp [h]

/-- The check of the idle clock moves that clock alone. -/
@[simp]
theorem checkIdle_frame (e : Engine Memory) :
    e.checkIdle.1.instruments = e.instruments ∧ e.checkIdle.1.memory = e.memory ∧
    e.checkIdle.1.settings = e.settings ∧ e.checkIdle.1.cadence = e.cadence ∧
    e.checkIdle.1.waypoints = e.waypoints ∧ e.checkIdle.1.sample = e.sample ∧
    e.checkIdle.1.situation = e.situation ∧ e.checkIdle.1.finish = e.finish ∧
    e.checkIdle.1.tracker = e.tracker ∧ e.checkIdle.1.traceClock = e.traceClock ∧
    e.checkIdle.1.events = e.events ∧ e.checkIdle.1.recorded = e.recorded :=
  ⟨rfl, rfl, rfl, rfl, rfl, rfl, rfl, rfl, rfl, rfl, rfl, rfl⟩

theorem tick_eq (e : Engine Memory) (sample : Sample) (force : Bool) :
    (e.tick sample force).1 =
      ((e.derive sample force).phaseEdge e.situation.flight.flying).checkIdle.1 := rfl

/-- Settings and store are the same all through a tick. -/
@[simp]
theorem tick_frame (e : Engine Memory) (sample : Sample) (force : Bool) :
    (e.tick sample force).1.instruments = e.instruments ∧
    (e.tick sample force).1.settings = e.settings ∧
    (e.tick sample force).1.cadence = e.cadence ∧
    (e.tick sample force).1.waypoints = e.waypoints ∧
    (e.tick sample force).1.sample = sample ∧
    (e.tick sample force).1.tracker = (e.beforeTeam sample force).tracking.tracker ∧
    (e.tick sample force).1.traceClock = (e.traceStep sample).1 := by
  simp [tick_eq, tracker_derive, traceClock_derive]

/-- The snapshot that a tick brings back: that of a finished task when a flight ends. -/
def reinstated (e : Engine Memory) (sample : Sample) (force : Bool) : Option Situation :=
  let derived := e.derive sample force
  if e.situation.flight.flying && !derived.situation.flight.flying &&
      derived.situation.orderedTask.finished then derived.finish
  else none

/-- A tick ends with a takeoff, which saves the situation, with a snapshot brought back, or with
what its computations have derived. -/
theorem tick_cases (e : Engine Memory) (sample : Sample) (force : Bool) :
    (e.reinstated sample force = none ∧
      (e.tick sample force).1.situation =
        ((e.derive sample force).revise (.resetAirData false)).situation ∧
      (e.tick sample force).1.finish = some (e.tick sample force).1.situation) ∨
    (∃ saved, e.reinstated sample force = some saved ∧
      (e.tick sample force).1.situation =
        { saved with flight := (e.derive sample force).situation.flight } ∧
      (e.derive sample force).finish = some saved ∧
      (e.tick sample force).1.finish = some saved) ∨
    (e.reinstated sample force = none ∧
      (e.tick sample force).1.situation = (e.derive sample force).situation ∧
      (e.tick sample force).1.finish = (e.derive sample force).finish) := by
  rw [tick_eq]
  unfold reinstated
  generalize e.derive sample force = derived
  rcases phaseEdge_cases derived e.situation.flight.flying with
    ⟨hNow, hWas, h⟩ | ⟨hNow, hWas, h⟩ | ⟨hSame, h⟩
  · rw [h]
    exact .inl (by simp [hWas])
  · rw [h]
    by_cases hDone : derived.situation.orderedTask.finished = true
    · cases hSaved : derived.finish with
      | none => exact .inr (.inr (by simp [hDone, situation_land, recalled, hSaved]))
      | some saved =>
          refine .inr (.inl ⟨saved, ?_⟩)
          simp [hNow, hWas, hDone, situation_land, recalled, hSaved]
    · exact .inr (.inr (by simp [hDone, situation_land]))
  · rw [h]
    exact .inr (.inr (by simp [hSame]))

/-- A reset drops the snapshot and clears groups of the situation. -/
@[simp]
theorem clearSituation_frame (e : Engine Memory) (full : Bool) :
    (e.clearSituation full).instruments = e.instruments ∧
    (e.clearSituation full).memory = e.memory ∧ (e.clearSituation full).settings = e.settings ∧
    (e.clearSituation full).cadence = e.cadence ∧
    (e.clearSituation full).waypoints = e.waypoints ∧
    (e.clearSituation full).sample = e.sample ∧
    (e.clearSituation full).situation = e.situation.reset full ∧
    (e.clearSituation full).finish = none ∧ (e.clearSituation full).tracker = e.tracker ∧
    (e.clearSituation full).idleClock = e.idleClock ∧
    (e.clearSituation full).traceClock = e.traceClock ∧
    (e.clearSituation full).events = e.events ∧
    (e.clearSituation full).recorded = e.recorded :=
  ⟨rfl, rfl, rfl, rfl, rfl, rfl, rfl, rfl, rfl, rfl, rfl, rfl, rfl⟩

/-- The instruments may write the situation when the air data are reset, and nothing else. -/
@[simp]
theorem resetInstruments_frame (e : Engine Memory) (full : Bool) :
    (e.resetInstruments full).instruments = e.instruments ∧
    (e.resetInstruments full).settings = e.settings ∧
    (e.resetInstruments full).cadence = e.cadence ∧
    (e.resetInstruments full).waypoints = e.waypoints ∧
    (e.resetInstruments full).sample = e.sample ∧
    (e.resetInstruments full).situation =
      (e.instruments.revise (.resetAirData full) e.situation e.memory).1 ∧
    (e.resetInstruments full).finish = e.finish ∧
    (e.resetInstruments full).tracker = e.tracker ∧
    (e.resetInstruments full).idleClock = e.idleClock ∧
    (e.resetInstruments full).traceClock = e.traceClock ∧
    (e.resetInstruments full).events = e.events ∧
    (e.resetInstruments full).recorded = e.recorded := by
  simp [resetInstruments]

/-- The idle clock and the cached reference are not reset. -/
@[simp]
theorem resetClocks_frame (e : Engine Memory) (full : Bool) :
    (e.resetClocks full).instruments = e.instruments ∧
    (e.resetClocks full).memory = e.memory ∧ (e.resetClocks full).settings = e.settings ∧
    (e.resetClocks full).cadence = e.cadence ∧ (e.resetClocks full).waypoints = e.waypoints ∧
    (e.resetClocks full).sample = e.sample ∧ (e.resetClocks full).situation = e.situation ∧
    (e.resetClocks full).finish = e.finish ∧
    (e.resetClocks full).tracker = (if full then e.tracker.resetThrottle else e.tracker) ∧
    (e.resetClocks full).idleClock = e.idleClock ∧ (e.resetClocks full).traceClock = .unset ∧
    (e.resetClocks full).events = e.events ∧ (e.resetClocks full).recorded = e.recorded :=
  ⟨rfl, rfl, rfl, rfl, rfl, rfl, rfl, rfl, rfl, rfl, rfl, rfl, rfl⟩

/-- Of the engine itself a reset touches the situation, the snapshot, the trace clock and the
throttle. -/
@[simp]
theorem resetFlight_frame (e : Engine Memory) (full : Bool) :
    (e.resetFlight full).instruments = e.instruments ∧
    (e.resetFlight full).settings = e.settings ∧ (e.resetFlight full).cadence = e.cadence ∧
    (e.resetFlight full).waypoints = e.waypoints ∧ (e.resetFlight full).sample = e.sample ∧
    (e.resetFlight full).finish = none ∧
    (e.resetFlight full).tracker = (if full then e.tracker.resetThrottle else e.tracker) ∧
    (e.resetFlight full).idleClock = e.idleClock ∧
    (e.resetFlight full).traceClock = .unset ∧ (e.resetFlight full).events = e.events ∧
    (e.resetFlight full).recorded = e.recorded := by
  simp [resetFlight]

/-- After a reset the groups that it forgets are cleared, and then the instruments may write. -/
@[simp]
theorem situation_resetFlight (e : Engine Memory) (full : Bool) :
    (e.resetFlight full).situation =
      (e.instruments.revise (.resetAirData full) (e.situation.reset full) e.memory).1 := by
  simp [resetFlight]

/-- An idle pass takes the situation through one revision and renews the warnings. -/
theorem situation_idlePass (e : Engine Memory) (exhaustive : Bool) :
    ∃ warnings memory, (e.idlePass exhaustive).situation =
      { (e.instruments.revise (.taskIdle e.feed exhaustive) e.situation memory).1 with
        warnings := warnings } := by
  unfold idlePass
  dsimp only
  split <;> exact ⟨_, _, rfl⟩

@[simp]
theorem idlePass_frame (e : Engine Memory) (exhaustive : Bool) :
    (e.idlePass exhaustive).instruments = e.instruments ∧
    (e.idlePass exhaustive).settings = e.settings ∧
    (e.idlePass exhaustive).cadence = e.cadence ∧
    (e.idlePass exhaustive).waypoints = e.waypoints ∧
    (e.idlePass exhaustive).sample = e.sample ∧ (e.idlePass exhaustive).finish = e.finish ∧
    (e.idlePass exhaustive).tracker = e.tracker ∧
    (e.idlePass exhaustive).idleClock = e.idleClock ∧
    (e.idlePass exhaustive).traceClock = e.traceClock ∧
    (e.idlePass exhaustive).events = e.events ∧
    (e.idlePass exhaustive).recorded = e.recorded := by
  unfold idlePass
  dsimp only
  split <;> simp

/-- The start of the task is marked in the circling records and nowhere else. -/
@[simp]
theorem situation_startTask (e : Engine Memory) :
    e.startTask.situation = { e.situation with
      circling := e.situation.circling.startTask e.sample.clock } := by
  simp [startTask, Situation.startTask]

@[simp]
theorem startTask_frame (e : Engine Memory) :
    e.startTask.instruments = e.instruments ∧ e.startTask.settings = e.settings ∧
    e.startTask.cadence = e.cadence ∧ e.startTask.waypoints = e.waypoints ∧
    e.startTask.sample = e.sample ∧ e.startTask.finish = e.finish ∧
    e.startTask.tracker = e.tracker ∧ e.startTask.idleClock = e.idleClock ∧
    e.startTask.traceClock = e.traceClock ∧
    e.startTask.events = e.events.push .taskStarted ∧
    e.startTask.recorded = e.recorded ++ [.taskStarted] := by
  have hMarked : ∀ s : Situation, ({ e.note (.taskStarted e.sample.clock) with
      situation := s } : Engine Memory).recorded = e.recorded := by
    intro s
    change (e.note (.taskStarted e.sample.clock)).recorded = e.recorded
    simp
  simpa [startTask] using hMarked _

/-- New settings change the settings in force and nothing else. -/
@[simp]
theorem setSettings_frame (e : Engine Memory) (settings : Settings) :
    (e.setSettings settings).1.instruments = e.instruments ∧
    (e.setSettings settings).1.cadence = e.cadence ∧
    (e.setSettings settings).1.waypoints = e.waypoints ∧
    (e.setSettings settings).1.sample = e.sample ∧
    (e.setSettings settings).1.situation = e.situation ∧
    (e.setSettings settings).1.finish = e.finish ∧
    (e.setSettings settings).1.tracker = e.tracker ∧
    (e.setSettings settings).1.idleClock = e.idleClock ∧
    (e.setSettings settings).1.traceClock = e.traceClock ∧
    (e.setSettings settings).1.events = e.events ∧
    (e.setSettings settings).1.recorded = e.recorded := by
  unfold setSettings
  split
  · exact ⟨rfl, rfl, rfl, rfl, rfl, rfl, rfl, rfl, rfl, rfl, rfl⟩
  · simp

/-- A new store leaves the situation, the snapshot and the queue alone. -/
@[simp]
theorem setWaypoints_frame (e : Engine Memory) (waypoints : WaypointSource) :
    (e.setWaypoints waypoints).instruments = e.instruments ∧
    (e.setWaypoints waypoints).cadence = e.cadence ∧
    (e.setWaypoints waypoints).situation = e.situation ∧
    (e.setWaypoints waypoints).finish = e.finish ∧
    (e.setWaypoints waypoints).traceClock = e.traceClock ∧
    (e.setWaypoints waypoints).events = e.events ∧
    (e.setWaypoints waypoints).recorded = e.recorded :=
  ⟨rfl, rfl, rfl, rfl, rfl, rfl, rfl⟩

@[simp]
theorem drainEvents_frame (e : Engine Memory) (limit : Option Nat) :
    (e.drainEvents limit).1.instruments = e.instruments ∧
    (e.drainEvents limit).1.cadence = e.cadence ∧
    (e.drainEvents limit).1.waypoints = e.waypoints ∧
    (e.drainEvents limit).1.situation = e.situation ∧
    (e.drainEvents limit).1.finish = e.finish ∧
    (e.drainEvents limit).1.tracker = e.tracker ∧
    (e.drainEvents limit).1.traceClock = e.traceClock ∧
    (e.drainEvents limit).1.recorded = e.recorded :=
  ⟨rfl, rfl, rfl, rfl, rfl, rfl, rfl, rfl⟩

/-- The instruments and the cadence of an engine are those it was built with. -/
@[simp]
theorem perform_frame (e : Engine Memory) (operation : Operation) :
    (e.perform operation).1.instruments = e.instruments ∧
    (e.perform operation).1.cadence = e.cadence := by
  cases operation <;> simp [perform, enterZone]

/-- No operation changes instruments or cadence. -/
@[simp]
theorem run_frame (e : Engine Memory) (operations : List Operation) :
    (e.run operations).instruments = e.instruments ∧
    (e.run operations).cadence = e.cadence := by
  induction operations generalizing e with
  | nil => exact ⟨rfl, rfl⟩
  | cons operation rest ih =>
      have hRest := ih (e.perform operation).1
      simpa [run] using hRest

/-- The last operation of a run is performed where the others have led. -/
@[simp]
theorem run_concat (e : Engine Memory) (past : List Operation) (operation : Operation) :
    e.run (past ++ [operation]) = ((e.run past).perform operation).1 := by
  simp only [run, List.foldl_append, List.foldl_cons, List.foldl_nil]

/-- The prefixes of a run are the empty one and those that its first operation begins. -/
theorem forall_prefix_cons {P : List Operation → Prop} {first : Operation}
    {rest : List Operation} :
    (∀ past, past <+: first :: rest → P past) ↔
      P [] ∧ ∀ past, past <+: rest → P (first :: past) := by
  constructor
  · intro h
    refine ⟨h [] (List.nil_prefix), fun past hPast => ?_⟩
    exact h (first :: past) (List.cons_prefix_cons.mpr ⟨rfl, hPast⟩)
  · rintro ⟨hNil, hCons⟩ past hPast
    cases past with
    | nil => exact hNil
    | cons head past =>
        obtain ⟨rfl, hTail⟩ := List.cons_prefix_cons.mp hPast
        exact hCons past hTail

theorem not_step_nil (past : List Operation) (operation : Operation) :
    ¬ past ++ [operation] <+: [] := by
  simp

/-- The steps of a run are its first operation and the steps of the rest. -/
theorem forall_step_cons {P : List Operation → Operation → Prop} {first : Operation}
    {rest : List Operation} :
    (∀ past operation, past ++ [operation] <+: first :: rest → P past operation) ↔
      P [] first ∧ ∀ past operation, past ++ [operation] <+: rest →
        P (first :: past) operation := by
  constructor
  · intro h
    refine ⟨h [] first (List.prefix_append [first] rest), fun past operation hPast => ?_⟩
    exact h (first :: past) operation (List.cons_prefix_cons.mpr ⟨rfl, hPast⟩)
  · rintro ⟨hNil, hCons⟩ past operation hPast
    cases past with
    | nil =>
        obtain ⟨rfl, -⟩ := List.cons_prefix_cons.mp hPast
        exact hNil
    | cons head past =>
        obtain ⟨rfl, hTail⟩ := List.cons_prefix_cons.mp hPast
        exact hCons past operation hTail

/-- The steps of a run by their position. -/
theorem forall_step_iff_take {P : List Operation → Operation → Prop}
    {operations : List Operation} :
    (∀ past operation, past ++ [operation] <+: operations → P past operation) ↔
      ∀ k, (hk : k < operations.length) → P (operations.take k) operations[k] := by
  constructor
  · intro h k hk
    refine h (operations.take k) operations[k] ?_
    rw [List.take_append_getElem hk]
    exact List.take_prefix (k + 1) operations
  · rintro h past operation ⟨rest, rfl⟩
    have hStep := h past.length (by simp)
    simpa using hStep

end Soaring.Engine

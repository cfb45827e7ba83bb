import Soaring.Proofs.Engine.Operations

/-!
What is left of an engine without a team. Over instruments of which only the airspace warnings write
anything, all but the team and the warnings is a machine of its own: it knows neither a team nor
waypoints, and it does nothing in an idle pass. Every operation of the engine is one of that
machine.
-/
namespace Soaring

/-- A situation without the team and the airspace warnings. -/
def Situation.common (s : Situation) : Situation := { s with team := {}, warnings := {} }

def Settings.common (s : Settings) : Settings := { s with team := {} }

/-- An operation without the team settings that it may bring. -/
def Operation.common : Operation → Operation
  | .setSettings settings => .setSettings settings.common
  | other => other

/-- No instrument but the airspace warnings does anything: no call changes the situation, and the
statistics stay those of an empty flight. -/
structure Instruments.OnlyWarns {Memory : Type} (i : Instruments Memory) : Prop where
  revise : ∀ r s m, (i.revise r s m).1 = s
  statistics : ∀ m, i.statistics m = {}

namespace Instruments

theorem none_onlyWarns : none.OnlyWarns := ⟨fun _ _ _ => rfl, fun _ => rfl⟩

/-- Airspace warnings of any kind, and no other instrument. -/
def warner {Memory : Type}
    (warn : Feed → Bool → Situation → Memory → AirspaceWarnings × Memory)
    (reset : Memory → Memory) : Instruments Memory where
  revise _ situation memory := (situation, memory)
  observe _ _ memory := memory
  warn := warn
  notify notice memory := match notice with
    | .resetWarnings => reset memory
    | _ => memory
  statistics _ := {}

theorem warner_onlyWarns {Memory : Type}
    (warn : Feed → Bool → Situation → Memory → AirspaceWarnings × Memory)
    (reset : Memory → Memory) : (warner warn reset).OnlyWarns :=
  ⟨fun _ _ _ => rfl, fun _ => rfl⟩

end Instruments

/-- Expiry treats each group by itself, so team and warnings may be taken away before or after
it. -/
theorem Situation.common_expire (s : Situation) (now : Stamp) :
    (s.expire now).common = s.common.expire now := by
  unfold expire dropStaleOwnCode
  split <;> rfl

theorem Situation.common_initial : initial.common = initial := rfl

theorem Situation.common_reset (s : Situation) (full : Bool) :
    (s.reset full).common = s.common.reset full := by
  cases full with
  | true => rw [reset_true, reset_true, common_initial]
  | false => rfl

/-- The events that an operation records if no tick brings a takeoff, a landing or a finish. -/
def Operation.records : Operation → List Event
  | .startTask => [.taskStarted]
  | _ => []

theorem Operation.records_common (operation : Operation) :
    operation.common.records = operation.records := by
  cases operation <;> rfl

def Reply.idleDue? : Reply → Option Bool
  | .idleDue due => some due
  | _ => none

/-- What is left of an engine without team, waypoints and instruments. -/
structure Bare where
  settings : Settings
  cadence : Cadence
  sample : Sample
  situation : Situation
  finish : Option Situation
  idleClock : PeriodClock
  traceClock : DeltaClock

namespace Bare

def start (settings : Settings) (cadence : Cadence) : Bare :=
  ⟨settings, cadence, {}, .initial, none, .unset, .unset⟩

def traceStep (p : Bare) (sample : Sample) : DeltaClock × TimeStep :=
  match sample.time with
  | none => (p.traceClock, .pending)
  | some time => p.traceClock.feed time p.cadence.trace

def accept (p : Bare) (sample : Sample) : Situation :=
  ({ p.situation with
    localTime := Situation.localTimeOf sample p.settings } : Situation).expire sample.clock

def derive (p : Bare) (sample : Sample) : Situation :=
  let s := p.accept sample
  { s with
    workingBand := .compute s.terrain p.settings.task.safetyHeight sample.usableAltitude {}
    trace := Engine.traceAfter s.trace sample (p.traceStep sample).2
    varioScale := .compute p.settings.polar {}
    fuel := s.fuel.update p.settings.plane sample.clock }

def tick (p : Bare) (sample : Sample) : Bare × Bool :=
  let (idleClock, due) := p.idleClock.checkAfterStart sample.clock p.cadence.idle
  ({ p with
    sample := sample
    situation := p.derive sample
    idleClock := idleClock
    traceClock := (p.traceStep sample).1 }, due)

def resetFlight (p : Bare) (full : Bool) : Bare :=
  { p with
    situation := p.situation.reset full
    finish := none
    traceClock := .unset }

def restoreFinish (p : Bare) : Bare :=
  match p.finish with
  | some saved => { p with situation := { saved with flight := p.situation.flight } }
  | none => p

def setSettings (p : Bare) (settings : Settings) : Bare :=
  match settings.validate with
  | .ok () => { p with settings := settings.common }
  | .error _ => p

def perform (p : Bare) : Operation → Bare × Option Bool
  | .tick sample _ => ((p.tick sample).1, some (p.tick sample).2)
  | .resetFlight full => (p.resetFlight full, none)
  | .startTask => ({ p with situation := p.situation.startTask p.sample.clock }, none)
  | .saveFinish => ({ p with finish := some p.situation }, none)
  | .restoreFinish => (p.restoreFinish, none)
  | .setSettings settings => (p.setSettings settings, none)
  | .idlePass _ | .enterZone | .setWaypoints _ | .drainEvents _ => (p, none)

/-- The machine does not read the team settings. -/
theorem perform_common (p : Bare) (operation : Operation) :
    p.perform operation.common = p.perform operation := by
  cases operation with
  | setSettings settings => rfl
  | tick | idlePass | resetFlight | startTask | enterZone | saveFinish | restoreFinish
  | setWaypoints | drainEvents => rfl

end Bare

namespace Engine

variable {Memory : Type}

def bare (e : Engine Memory) : Bare :=
  { settings := e.settings.common
    cadence := e.cadence
    sample := e.sample
    situation := e.situation.common
    finish := e.finish.map Situation.common
    idleClock := e.idleClock
    traceClock := e.traceClock }

/-- Over such instruments a tick derives all but the team by itself. -/
theorem situation_derive_of_onlyWarns {e : Engine Memory} (h : e.instruments.OnlyWarns)
    (sample : Sample) (force : Bool) :
    (e.derive sample force).situation =
      let s := (e.accept sample).situation
      { s with
        workingBand := .compute s.terrain e.settings.task.safetyHeight sample.usableAltitude {}
        team := (e.beforeTeam sample force).tracking.team
        trace := traceAfter s.trace sample (e.traceStep sample).2
        varioScale := .compute e.settings.polar {}
        fuel := s.fuel.update e.settings.plane sample.clock } := by
  simp [derive_eq, beforeTeam, afterTaskBasics, afterAirBasics, h.revise, h.statistics, statistics,
    traceStep]

/-- The task is never finished and the aircraft never takes off or lands in a tick. -/
theorem tick_of_onlyWarns {e : Engine Memory} (h : e.instruments.OnlyWarns)
    (sample : Sample) (force : Bool) :
    e.tick sample force = (e.derive sample force).checkIdle ∧
      (e.derive sample force).finish = e.finish ∧
      (e.derive sample force).recorded = e.recorded := by
  have hFlying : (e.derive sample force).situation.flight.flying = e.situation.flight.flying := by
    simp [situation_derive_of_onlyWarns h]
  have hUnfinished : e.finishesTask sample force = false := by
    simp [finishesTask, afterTaskBasics, afterAirBasics, h.revise]
  refine ⟨?_, ?_, ?_⟩
  · unfold tick phaseEdge
    simp [hFlying]
  · simp [finish_derive, hUnfinished]
  · simp [recorded_derive, hUnfinished]

theorem bare_traceStep (e : Engine Memory) (sample : Sample) :
    e.bare.traceStep sample = e.traceStep sample := rfl

theorem bare_accept (e : Engine Memory) (sample : Sample) :
    e.bare.accept sample = (e.accept sample).situation.common :=
  (Situation.common_expire { e.situation with
    localTime := Situation.localTimeOf sample e.settings } sample.clock).symm

/-- The stages of a tick that are left write the same values from the same sample. -/
theorem bare_derive {e : Engine Memory} (h : e.instruments.OnlyWarns) (sample : Sample)
    (force : Bool) : e.bare.derive sample = (e.derive sample force).situation.common := by
  unfold Bare.derive
  rw [situation_derive_of_onlyWarns h, bare_accept]
  rfl

/-- Over instruments that only warn, no tick brings a takeoff, a landing or a finish, so it is the
one of the machine. -/
theorem bare_tick {e : Engine Memory} (h : e.instruments.OnlyWarns) (sample : Sample)
    (force : Bool) :
    ((e.tick sample force).1.bare, (e.tick sample force).2) = e.bare.tick sample := by
  obtain ⟨hTick, hFinish, -⟩ := tick_of_onlyWarns h sample force
  have hChecked : (e.derive sample force).checkIdle =
      ({ e.derive sample force with
        idleClock := (e.idleClock.checkAfterStart sample.clock e.cadence.idle).1 },
        (e.idleClock.checkAfterStart sample.clock e.cadence.idle).2) := by
    simp [checkIdle]
  unfold Bare.tick
  rw [hTick, hChecked, bare_derive h sample force, bare_traceStep]
  simp [bare, hFinish, traceClock_derive]

theorem bare_resetFlight {e : Engine Memory} (h : e.instruments.OnlyWarns) (full : Bool) :
    (e.resetFlight full).bare = e.bare.resetFlight full := by
  have hSituation : (e.resetFlight full).situation.common = e.situation.common.reset full := by
    rw [situation_resetFlight, h.revise, Situation.common_reset]
  unfold bare Bare.resetFlight
  rw [hSituation]
  simp

theorem bare_restoreFinish (e : Engine Memory) : e.restoreFinish.bare = e.bare.restoreFinish := by
  obtain ⟨_, _, _, _, _, _, _, finish, _, _, _, _, _⟩ := e
  cases finish <;> rfl

/-- An idle pass writes nothing but warnings. -/
theorem bare_idlePass {e : Engine Memory} (h : e.instruments.OnlyWarns) (exhaustive : Bool) :
    (e.idlePass exhaustive).bare = e.bare := by
  obtain ⟨warnings, memory, hSituation⟩ := situation_idlePass e exhaustive
  simp [bare, hSituation, h.revise, Situation.common]

theorem bare_startTask (e : Engine Memory) :
    e.startTask.bare =
      { e.bare with situation := e.bare.situation.startTask e.bare.sample.clock } := by
  unfold bare
  simp only [situation_startTask, startTask_frame]
  rfl

/-- Settings that are accepted are taken over, here without their team. -/
theorem bare_setSettings (e : Engine Memory) (settings : Settings) :
    (e.setSettings settings).1.bare = e.bare.setSettings settings := by
  unfold setSettings Bare.setSettings
  cases settings.validate <;> rfl

/-- Any operation does to an engine, its team and warnings apart, what the machine does. -/
theorem bare_perform {e : Engine Memory} (h : e.instruments.OnlyWarns) (operation : Operation) :
    ((e.perform operation).1.bare, (e.perform operation).2.idleDue?) =
      e.bare.perform operation := by
  cases operation with
  | tick sample force =>
      have hTicked := bare_tick (e := e.openJournal) h sample force
      exact congrArg (fun ticked : Bare × Bool => (ticked.1, some ticked.2)) hTicked
  | idlePass exhaustive =>
      exact congrArg (·, none) (bare_idlePass (e := e.openJournal) h exhaustive)
  | resetFlight full => exact congrArg (·, none) (bare_resetFlight (e := e.openJournal) h full)
  | startTask => exact congrArg (·, none) (bare_startTask e.openJournal)
  | restoreFinish => exact congrArg (·, none) (bare_restoreFinish e.openJournal)
  | setSettings settings => exact congrArg (·, none) (bare_setSettings e.openJournal settings)
  | enterZone | saveFinish | setWaypoints | drainEvents => rfl

/-- Nothing is recorded but the start of a task, since no instrument lets the aircraft take off or
finish. -/
theorem recorded_perform_of_onlyWarns {e : Engine Memory} (h : e.instruments.OnlyWarns)
    (operation : Operation) : (e.perform operation).1.recorded = operation.records := by
  cases operation with
  | tick sample force =>
      obtain ⟨hTick, -, hRecorded⟩ := tick_of_onlyWarns (e := e.openJournal) h sample force
      simp [perform, hTick, hRecorded, Operation.records]
  | idlePass | resetFlight | startTask | enterZone | saveFinish | restoreFinish | setSettings
  | setWaypoints | drainEvents => simp [perform, enterZone, Operation.records]

theorem bare_powerUp {i : Instruments Memory} (h : i.OnlyWarns) (m : Memory)
    (settings : Settings) (cadence : Cadence) (waypoints : WaypointSource) :
    (powerUp i m settings cadence waypoints).bare = .start settings.common cadence := by
  simp [bare, powerUp, h.revise, Bare.start, Situation.common_initial]

end Engine

end Soaring

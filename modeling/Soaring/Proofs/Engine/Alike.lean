import Soaring.Proofs.Engine.Operations

/-!
Engines that cannot be told apart by what they compute. The core of an engine leaves out the idle
clock, the waiting events, and the notes and lookups in the journal. Nothing that an operation
computes depends on these, so engines with the same core stay that way and show the same outcomes.
-/
namespace Soaring

def Reply.verdict? : Reply → Option (Except Error Unit)
  | .verdict result => some result
  | _ => none

/-- What a caller and the instruments see of an operation. -/
structure Outcome where
  situation : Situation
  sample : Sample
  settings : Settings
  /-- The calls that were made, with their arguments, and the events that were recorded. -/
  effects : List Entry
  verdict : Option (Except Error Unit)

namespace Engine

variable {Memory : Type}

/-- The engine without what its computations do not depend on. -/
def core (e : Engine Memory) : Engine Memory :=
  { e with
    idleClock := .unset
    events := .empty
    journal := e.journal.filter Entry.isEffect }

/-- The engines agree up to the idle clock, waiting events and the log. -/
structure Alike (a b : Engine Memory) : Prop where
  core_eq : a.core = b.core

def outcome (e : Engine Memory) (reply : Reply) : Outcome :=
  { situation := e.situation
    sample := e.sample
    settings := e.settings
    effects := e.journal.filter Entry.isEffect
    verdict := reply.verdict? }

/-- What is seen after each operation of a sequence. -/
def outcomes (e : Engine Memory) : List Operation → List Outcome
  | [] => []
  | operation :: rest =>
      (e.perform operation).1.outcome (e.perform operation).2 ::
        (e.perform operation).1.outcomes rest

/-- Of entries only the calls and events reach the core. -/
theorem core_enter (e : Engine Memory) (entries : List Entry) :
    (e.enter entries).core = e.core.enter (entries.filter Entry.isEffect) := by
  simp [core, enter]

/-- Notes and lookups do not show in the core. -/
theorem core_enter_of_not_isEffect (e : Engine Memory) {entries : List Entry}
    (h : ∀ entry ∈ entries, ¬ entry.isEffect) : (e.enter entries).core = e.core := by
  rw [core_enter, List.filter_eq_nil_iff.mpr h]
  simp [enter]

theorem core_note (e : Engine Memory) (n : Note) : (e.note n).core = e.core :=
  core_enter_of_not_isEffect e (by simp [Entry.isEffect])

/-- An elementary step does not ask for what the core leaves out, so it may as well be made on the
core. -/
theorem core_revise (e : Engine Memory) (r : Revision) :
    (e.revise r).core = e.core.revise r := by
  simp [core, revise, enter, Entry.isEffect]

theorem core_observe (e : Engine Memory) (o : Observation) :
    (e.observe o).core = e.core.observe o := by
  simp [core, observe, enter, Entry.isEffect]

theorem core_notify (e : Engine Memory) (n : Notice) :
    (e.notify n).core = e.core.notify n := by
  simp [core, notify, enter, Entry.isEffect]

theorem core_updateWarnings (e : Engine Memory) (feed : Feed) (exhaustive : Bool) :
    (e.updateWarnings feed exhaustive).core = e.core.updateWarnings feed exhaustive := by
  simp [core, updateWarnings, enter, Entry.isEffect]

theorem core_applyStatistics (e : Engine Memory) (change : Statistics → Situation → Situation) :
    (e.applyStatistics change).core = e.core.applyStatistics change := by
  simp [core, applyStatistics, statistics, enter, Entry.isEffect]

/-- Whether another event is lost is left out of the core. -/
theorem core_record (e : Engine Memory) (event : Event) :
    (e.record event).core = e.core.enter [.event event] := by
  simp only [record]
  cases e.events.overflow? <;> simp [core, enter, Entry.isEffect]

/-- The team computations show in the core by the tracker and the team group. -/
theorem core_updateTeam (e : Engine Memory) :
    e.updateTeam.core = { e.core with
      tracker := e.tracking.tracker
      situation := { e.situation with team := e.tracking.team } } := by
  have h : (e.enter e.tracking.entries).core = e.core :=
    core_enter_of_not_isEffect e fun _ h =>
      Entry.not_isEffect_of_ofReference (Team.ofReference_of_mem_track h)
  exact congrArg (fun c : Engine Memory => { c with
    tracker := e.tracking.tracker
    situation := { e.situation with team := e.tracking.team } }) h

/-- A warp is only noted, so the core sees what becomes of the clock and the history. -/
theorem core_updateTrace (e : Engine Memory) :
    e.updateTrace.core = { e.core with
      traceClock := (e.traceStep e.sample).1
      situation := { e.situation with
        trace := traceAfter e.situation.trace e.sample (e.traceStep e.sample).2 } } := by
  have h : (e.enter (traceNotes (e.traceStep e.sample).2)).core = e.core := by
    apply core_enter_of_not_isEffect
    cases (e.traceStep e.sample).2 <;> simp [traceNotes, Entry.isEffect]
  rw [updateTrace_eq]
  exact congrArg (fun c : Engine Memory => { c with
    traceClock := (e.traceStep e.sample).1
    situation := { e.situation with
      trace := traceAfter e.situation.trace e.sample (e.traceStep e.sample).2 } }) h

namespace Alike

variable {a b : Engine Memory}

theorem settings (h : Alike a b) : a.settings = b.settings :=
  (congrArg Engine.settings h.core_eq :)

theorem cadence (h : Alike a b) : a.cadence = b.cadence :=
  (congrArg Engine.cadence h.core_eq :)

theorem waypoints (h : Alike a b) : a.waypoints = b.waypoints :=
  (congrArg Engine.waypoints h.core_eq :)

theorem sample (h : Alike a b) : a.sample = b.sample :=
  (congrArg Engine.sample h.core_eq :)

theorem situation (h : Alike a b) : a.situation = b.situation :=
  (congrArg Engine.situation h.core_eq :)

theorem finish (h : Alike a b) : a.finish = b.finish :=
  (congrArg Engine.finish h.core_eq :)

theorem tracker (h : Alike a b) : a.tracker = b.tracker :=
  (congrArg Engine.tracker h.core_eq :)

theorem traceClock (h : Alike a b) : a.traceClock = b.traceClock :=
  (congrArg Engine.traceClock h.core_eq :)

/-- Of the journals the calls and events agree, with all that they carry. -/
theorem effects (h : Alike a b) :
    a.journal.filter Entry.isEffect = b.journal.filter Entry.isEffect :=
  (congrArg Engine.journal h.core_eq :)

theorem feed (h : Alike a b) : a.feed = b.feed := by
  unfold Engine.feed
  rw [h.sample, h.settings]

theorem openJournal (h : Alike a b) : Alike a.openJournal b.openJournal :=
  ⟨congrArg Engine.openJournal h.core_eq⟩

theorem note (h : Alike a b) (n : Note) : Alike (a.note n) (b.note n) := by
  constructor
  rw [core_note, core_note, h.core_eq]

theorem revise (h : Alike a b) (r : Revision) : Alike (a.revise r) (b.revise r) := by
  constructor
  rw [core_revise, core_revise, h.core_eq]

theorem observe (h : Alike a b) (o : Observation) : Alike (a.observe o) (b.observe o) := by
  constructor
  rw [core_observe, core_observe, h.core_eq]

theorem notify (h : Alike a b) (n : Notice) : Alike (a.notify n) (b.notify n) := by
  constructor
  rw [core_notify, core_notify, h.core_eq]

theorem updateWarnings (h : Alike a b) (feed : Feed) (exhaustive : Bool) :
    Alike (a.updateWarnings feed exhaustive) (b.updateWarnings feed exhaustive) := by
  constructor
  rw [core_updateWarnings, core_updateWarnings, h.core_eq]

theorem applyStatistics (h : Alike a b) (change : Statistics → Situation → Situation) :
    Alike (a.applyStatistics change) (b.applyStatistics change) := by
  constructor
  rw [core_applyStatistics, core_applyStatistics, h.core_eq]

theorem record (h : Alike a b) (event : Event) : Alike (a.record event) (b.record event) := by
  constructor
  rw [core_record, core_record, h.core_eq]

theorem saveFinish (h : Alike a b) : Alike a.saveFinish b.saveFinish :=
  ⟨congrArg Engine.saveFinish h.core_eq⟩

/-- The same situation put into both engines. -/
theorem withSituation (h : Alike a b) (s : Situation) :
    Alike { a with situation := s } { b with situation := s } :=
  ⟨congrArg (fun e : Engine Memory => { e with situation := s }) h.core_eq⟩

theorem restoreFinish (h : Alike a b) : Alike a.restoreFinish b.restoreFinish := by
  have hRecalled : a.recalled = b.recalled := by
    unfold recalled
    rw [h.finish, h.situation]
  rw [restoreFinish_eq, restoreFinish_eq, hRecalled]
  exact h.withSituation _

/-- Alike engines see the same flag, so both finish the task or neither does. -/
theorem finishEdge (h : Alike a b) (wasFinished : Bool) :
    Alike (a.finishEdge wasFinished) (b.finishEdge wasFinished) := by
  unfold Engine.finishEdge Engine.finishTask
  rw [h.situation, h.sample]
  split
  · exact (h.note _).saveFinish.record _
  · exact h

/-- Alike engines take off together and land together, with the same snapshot to bring back. -/
theorem phaseEdge (h : Alike a b) (wasFlying : Bool) :
    Alike (a.phaseEdge wasFlying) (b.phaseEdge wasFlying) := by
  unfold Engine.phaseEdge Engine.takeOff Engine.land
  rw [h.situation, h.sample]
  have hNoted := h.note (.landing b.sample.clock)
  dsimp only
  split
  · exact ((h.note _).revise _).saveFinish.record _
  · split
    · rw [hNoted.situation]
      split
      · exact hNoted.restoreFinish.record _
      · exact hNoted.record _
    · exact h

/-- The team computations ask for nothing that alike engines may differ in. -/
theorem updateTeam (h : Alike a b) : Alike a.updateTeam b.updateTeam := by
  have hTracking : a.tracking = b.tracking := by
    unfold tracking
    rw [h.tracker, h.cadence, h.feed, h.waypoints, h.situation]
  constructor
  rw [core_updateTeam, core_updateTeam, h.core_eq, h.situation, hTracking]

theorem updateTrace (h : Alike a b) : Alike a.updateTrace b.updateTrace := by
  have hStep : a.traceStep a.sample = b.traceStep b.sample := by
    unfold traceStep
    rw [h.sample, h.traceClock, h.cadence]
  constructor
  rw [core_updateTrace, core_updateTrace, h.core_eq, h.situation, h.sample, ← hStep, h.sample]

theorem updateFuel (h : Alike a b) : Alike a.updateFuel b.updateFuel :=
  ⟨congrArg Engine.updateFuel h.core_eq⟩

theorem accept (h : Alike a b) (sample : Sample) : Alike (a.accept sample) (b.accept sample) :=
  ⟨congrArg (fun e : Engine Memory => e.accept sample) h.core_eq⟩

theorem updateBand (h : Alike a b) : Alike a.updateBand b.updateBand := by
  unfold Engine.updateBand
  rw [h.settings, h.sample]
  exact h.applyStatistics _

theorem updateScale (h : Alike a b) : Alike a.updateScale b.updateScale := by
  unfold Engine.updateScale
  rw [h.settings]
  exact h.applyStatistics _

theorem afterAirBasics (h : Alike a b) (sample : Sample) :
    Alike (a.afterAirBasics sample) (b.afterAirBasics sample) := by
  unfold Engine.afterAirBasics
  rw [h.settings]
  exact (h.accept sample).revise _

theorem beforeTeam (h : Alike a b) (sample : Sample) (force : Bool) :
    Alike (a.beforeTeam sample force) (b.beforeTeam sample force) := by
  have hAir := h.afterAirBasics sample
  unfold Engine.beforeTeam Engine.afterTaskBasics
  rw [h.settings, hAir.situation]
  exact ((hAir.revise _).finishEdge _).updateBand.revise _ |>.revise _ |>.revise _ |>.observe _
    |>.revise _

/-- From the team computations on, a tick asks nothing that the core leaves out. -/
theorem tick_of_updateTeam {sample : Sample} {force : Bool}
    (hTeam : Alike (a.beforeTeam sample force).updateTeam
      (b.beforeTeam sample force).updateTeam)
    (hSettings : a.settings = b.settings)
    (hFlying : a.situation.flight.flying = b.situation.flight.flying) :
    Alike (a.tick sample force).1 (b.tick sample force).1 := by
  have hDerive : Alike (a.derive sample force) (b.derive sample force) := by
    rw [derive_eq, derive_eq, hSettings]
    exact (hTeam.updateTrace.updateScale.observe _).updateFuel.revise _
  have hPhase := hDerive.phaseEdge a.situation.flight.flying
  rw [tick_eq, tick_eq, ← hFlying]
  exact ⟨hPhase.core_eq⟩

/-- A tick keeps engines alike. Whether an idle pass is due may differ. -/
theorem tick (h : Alike a b) (sample : Sample) (force : Bool) :
    Alike (a.tick sample force).1 (b.tick sample force).1 :=
  tick_of_updateTeam (h.beforeTeam sample force).updateTeam h.settings (by rw [h.situation])

theorem idlePass (h : Alike a b) (exhaustive : Bool) :
    Alike (a.idlePass exhaustive) (b.idlePass exhaustive) := by
  have hPassed := ((((h.observe (.statisticsLog b.sample)).observe (.recorder b.feed)).revise
    (.taskIdle b.feed exhaustive)).updateWarnings b.feed exhaustive).observe (.idleMonitors b.feed)
  unfold Engine.idlePass
  rw [h.sample, h.feed]
  dsimp only
  rw [hPassed.sample]
  split
  · exact hPassed.notify _
  · exact hPassed

theorem startTask (h : Alike a b) : Alike a.startTask b.startTask := by
  have hNoted := h.note (.taskStarted b.sample.clock)
  unfold Engine.startTask
  dsimp only
  rw [h.sample, hNoted.situation]
  exact ((((hNoted.withSituation _).notify _).notify _).notify _).notify _ |>.record _

theorem resetFlight (h : Alike a b) (full : Bool) :
    Alike (a.resetFlight full) (b.resetFlight full) := by
  have hCleared : Alike (a.clearSituation full) (b.clearSituation full) :=
    ⟨congrArg (fun e : Engine Memory => e.clearSituation full) h.core_eq⟩
  have hReset : Alike ((a.clearSituation full).resetInstruments full)
      ((b.clearSituation full).resetInstruments full) := by
    unfold Engine.resetInstruments
    exact (hCleared.revise _).notify _ |>.notify _ |>.notify _ |>.notify _ |>.notify _ |>.notify _
  exact ⟨congrArg (fun e : Engine Memory => e.resetClocks full) hReset.core_eq⟩

/-- Whether settings are accepted depends on the settings alone. -/
theorem setSettings (h : Alike a b) (settings : Settings) :
    Alike (a.setSettings settings).1 (b.setSettings settings).1 := by
  unfold Engine.setSettings
  split
  · exact ⟨congrArg (fun e : Engine Memory => { e with settings := settings }) h.core_eq⟩
  · exact h.note _

/-- Every operation keeps engines alike. -/
theorem perform (h : Alike a b) (operation : Operation) :
    Alike (a.perform operation).1 (b.perform operation).1 := by
  have hOpen := h.openJournal
  cases operation with
  | tick sample force => exact hOpen.tick sample force
  | idlePass exhaustive => exact hOpen.idlePass exhaustive
  | resetFlight full => exact hOpen.resetFlight full
  | startTask => exact hOpen.startTask
  | enterZone => exact hOpen.notify .fastRecording
  | saveFinish => exact hOpen.saveFinish
  | restoreFinish => exact hOpen.restoreFinish
  | setSettings settings => exact hOpen.setSettings settings
  | setWaypoints waypoints =>
      exact ⟨congrArg (fun e : Engine Memory => e.setWaypoints waypoints) hOpen.core_eq⟩
  | drainEvents limit => exact ⟨hOpen.core_eq⟩

/-- Of the replies only a verdict is compared, and that is the verdict on the settings alone. -/
theorem verdict_perform (a b : Engine Memory) (operation : Operation) :
    (a.perform operation).2.verdict? = (b.perform operation).2.verdict? := by
  cases operation with
  | setSettings settings =>
      simp only [Engine.perform, Engine.setSettings]
      split <;> rfl
  | tick | idlePass | resetFlight | startTask | enterZone | saveFinish | restoreFinish
  | setWaypoints | drainEvents => rfl

/-- What is seen of alike engines is the same. -/
theorem outcome_perform {operation : Operation}
    (h : Alike (a.perform operation).1 (b.perform operation).1) :
    (a.perform operation).1.outcome (a.perform operation).2 =
      (b.perform operation).1.outcome (b.perform operation).2 := by
  unfold Engine.outcome
  rw [h.situation, h.sample, h.settings, h.effects, verdict_perform a b operation]

/-- Engines with the same core show the same outcomes of any sequence of operations. -/
theorem outcomes (h : Alike a b) (operations : List Operation) :
    a.outcomes operations = b.outcomes operations := by
  induction operations generalizing a b with
  | nil => rfl
  | cons operation rest ih =>
      have hStep := h.perform operation
      unfold Engine.outcomes
      rw [outcome_perform hStep, ih hStep]

end Alike

end Engine

end Soaring

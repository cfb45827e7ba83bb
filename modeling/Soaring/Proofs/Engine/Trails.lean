import Soaring.Proofs.Engine.Later
import Soaring.Proofs.Engine.PowerUp

/-!
Runs that are flown later. If the instruments commute with a delay, so does every operation: on the
delayed engine and the delayed sample it gives what the delay makes of its result. An engine holds
no stamp before its first sample, so a run that starts with a tick shows the same later, with stamps
of the sample clock and GPS times moved each by their own amount.
-/
namespace Soaring.Engine

variable {Memory : Type}

/-- One engine is where the other one is, only later, over instruments that commute with the
delay. -/
structure Trails (d : Delay) (shift : Memory → Memory) (b a : Engine Memory) : Prop where
  eq_later : b = a.later d shift
  commutes : a.instruments.Commutes d shift

namespace Trails

variable {d : Delay} {shift : Memory → Memory} {b a : Engine Memory}

theorem situation (h : Trails d shift b a) : b.situation = a.situation.later d :=
  congrArg Engine.situation h.eq_later

theorem flying (h : Trails d shift b a) :
    b.situation.flight.flying = a.situation.flight.flying := by
  rw [h.situation]
  rfl

theorem finished (h : Trails d shift b a) :
    b.situation.orderedTask.finished = a.situation.orderedTask.finished := by
  rw [h.situation]
  rfl

theorem sample (h : Trails d shift b a) : b.sample = a.sample.later d :=
  congrArg Engine.sample h.eq_later

theorem location (h : Trails d shift b a) : b.sample.location = a.sample.location := by
  rw [h.sample]
  rfl

theorem settings (h : Trails d shift b a) : b.settings = a.settings :=
  (congrArg Engine.settings h.eq_later :)

theorem feed (h : Trails d shift b a) : b.feed = a.feed.later d := by
  rw [h.eq_later]
  rfl

/-- Events carry no time, so both engines record the same. -/
theorem recorded (h : Trails d shift b a) : b.recorded = a.recorded := by
  rw [h.eq_later, recorded_later]

theorem openJournal (h : Trails d shift b a) : Trails d shift b.openJournal a.openJournal :=
  ⟨congrArg Engine.openJournal h.eq_later, h.commutes⟩

theorem enter (h : Trails d shift b a) (entries : List Entry) :
    Trails d shift (b.enter (entries.map (Entry.later d))) (a.enter entries) := by
  refine ⟨?_, h.commutes⟩
  rw [h.eq_later]
  simp [Engine.enter, later]

theorem note (h : Trails d shift b a) (n : Note) :
    Trails d shift (b.note (n.later d)) (a.note n) :=
  h.enter [.note n]

/-- The situations of both engines are replaced, each by one of its own time. -/
theorem withSituation (h : Trails d shift b a) (s : Situation) :
    Trails d shift { b with situation := s.later d } { a with situation := s } :=
  ⟨congrArg (fun e : Engine Memory => { e with situation := s.later d }) h.eq_later, h.commutes⟩

theorem record (h : Trails d shift b a) (event : Event) :
    Trails d shift (b.record event) (a.record event) := by
  obtain ⟨rfl, hCommutes⟩ := h
  refine ⟨?_, hCommutes⟩
  simp only [Engine.record, later]
  cases a.events.overflow? <;> simp [Engine.enter, Entry.later, Note.later]

/-- A call on the later engine gives what the delay makes of the call on the other one, since the
instruments commute with it. -/
theorem revise (h : Trails d shift b a) (r : Revision) :
    Trails d shift (b.revise (r.later d)) (a.revise r) := by
  obtain ⟨rfl, hCommutes⟩ := h
  refine ⟨?_, hCommutes⟩
  simp only [Engine.revise, later, hCommutes.revise, Engine.enter, List.map_append]
  rfl

theorem observe (h : Trails d shift b a) (o : Observation) :
    Trails d shift (b.observe (o.later d)) (a.observe o) := by
  obtain ⟨rfl, hCommutes⟩ := h
  refine ⟨?_, hCommutes⟩
  simp only [Engine.observe, later, hCommutes.observe, Engine.enter, List.map_append]
  rfl

theorem notify (h : Trails d shift b a) (n : Notice) :
    Trails d shift (b.notify (n.later d)) (a.notify n) := by
  obtain ⟨rfl, hCommutes⟩ := h
  refine ⟨?_, hCommutes⟩
  simp only [Engine.notify, later, hCommutes.notify, Engine.enter, List.map_append]
  rfl

theorem updateWarnings (h : Trails d shift b a) (feed : Feed) (exhaustive : Bool) :
    Trails d shift (b.updateWarnings (feed.later d) exhaustive)
      (a.updateWarnings feed exhaustive) := by
  obtain ⟨rfl, hCommutes⟩ := h
  refine ⟨?_, hCommutes⟩
  simp only [Engine.updateWarnings, later, hCommutes.warn, Engine.enter, List.map_append]
  rfl

/-- What the statistics change is no stamp. -/
theorem applyStatistics (h : Trails d shift b a) {change : Statistics → Situation → Situation}
    (hChange : ∀ stats s, change stats (s.later d) = (change stats s).later d) :
    Trails d shift (b.applyStatistics change) (a.applyStatistics change) := by
  obtain ⟨rfl, hCommutes⟩ := h
  refine ⟨?_, hCommutes⟩
  simp only [Engine.applyStatistics, later, Engine.statistics, hCommutes.statistics, hChange,
    Engine.enter, List.map_append]
  rfl

theorem updateBand (h : Trails d shift b a) : Trails d shift b.updateBand a.updateBand := by
  unfold Engine.updateBand
  rw [h.settings, h.sample]
  exact h.applyStatistics fun _ _ => rfl

theorem updateScale (h : Trails d shift b a) : Trails d shift b.updateScale a.updateScale := by
  unfold Engine.updateScale
  rw [h.settings]
  exact h.applyStatistics fun _ _ => rfl

theorem updateFuel (h : Trails d shift b a) : Trails d shift b.updateFuel a.updateFuel := by
  obtain ⟨rfl, hCommutes⟩ := h
  refine ⟨?_, hCommutes⟩
  have hFuel : (a.situation.later d).fuel.update a.settings.plane (a.sample.clock + d.clock) =
      (a.situation.fuel.update a.settings.plane a.sample.clock).later d.clock :=
    Fuel.update_later ..
  change ({ a.later d shift with situation := { a.situation.later d with
    fuel := (a.situation.later d).fuel.update a.settings.plane (a.sample.clock + d.clock) } } :
      Engine Memory) = _
  rw [hFuel]
  rfl

theorem accept (h : Trails d shift b a) (sample : Sample) :
    Trails d shift (b.accept (sample.later d)) (a.accept sample) := by
  obtain ⟨rfl, hCommutes⟩ := h
  refine ⟨?_, hCommutes⟩
  have hExpired := Situation.expire_later ({ a.situation with
    localTime := Situation.localTimeOf sample a.settings } : Situation) d sample.clock
  change ({ a.later d shift with
    sample := sample.later d
    situation := ({ a.situation.later d with
      localTime := Situation.localTimeOf (sample.later d) a.settings } : Situation).expire
        (sample.clock + d.clock) } : Engine Memory) = _
  rw [Situation.localTimeOf_later]
  exact congrArg (fun s : Situation =>
    ({ a.later d shift with sample := sample.later d, situation := s } : Engine Memory)) hExpired

/-- The team computations see clocks, gates and the throttle moved by one amount. -/
theorem updateTeam (h : Trails d shift b a) : Trails d shift b.updateTeam a.updateTeam := by
  obtain ⟨rfl, hCommutes⟩ := h
  refine ⟨?_, hCommutes⟩
  have hEntered := (Trails.mk rfl hCommutes).enter a.tracking.entries
  rw [entries_tracking_later] at hEntered
  change ({ (a.later d shift).enter (a.later d shift).tracking.entries with
    tracker := (a.later d shift).tracking.tracker
    situation := { a.situation.later d with team := (a.later d shift).tracking.team } } :
      Engine Memory) = _
  rw [tracking_later]
  exact congrArg (fun e : Engine Memory => ({ e with
    tracker := a.tracking.tracker.later d.clock
    situation := { a.situation.later d with team := a.tracking.team.later d.clock } } :
      Engine Memory)) hEntered.eq_later

/-- The trace clock has moved by the delay of GPS time, and its step is the same. -/
theorem updateTrace (h : Trails d shift b a) : Trails d shift b.updateTrace a.updateTrace := by
  obtain ⟨rfl, hCommutes⟩ := h
  refine ⟨?_, by simpa using hCommutes⟩
  have hEntered := (Trails.mk rfl hCommutes).enter (traceNotes (a.traceStep a.sample).2)
  rw [traceNotes_later] at hEntered
  rw [updateTrace_eq, updateTrace_eq]
  change ({ (a.later d shift).enter (traceNotes ((a.later d shift).traceStep (a.sample.later d)).2)
    with
    traceClock := ((a.later d shift).traceStep (a.sample.later d)).1
    situation := { a.situation.later d with
      trace := traceAfter (a.situation.trace.later d.time) (a.sample.later d)
        ((a.later d shift).traceStep (a.sample.later d)).2 } } : Engine Memory) = _
  rw [traceStep_later, traceAfter_later]
  exact congrArg (fun e : Engine Memory => ({ e with
    traceClock := (a.traceStep a.sample).1.later d.time
    situation := { a.situation.later d with
      trace := (traceAfter a.situation.trace a.sample (a.traceStep a.sample).2).later d.time } } :
        Engine Memory)) hEntered.eq_later

theorem saveFinish (h : Trails d shift b a) : Trails d shift b.saveFinish a.saveFinish :=
  ⟨congrArg Engine.saveFinish h.eq_later, h.commutes⟩

theorem restoreFinish (h : Trails d shift b a) :
    Trails d shift b.restoreFinish a.restoreFinish := by
  have hRecalled : b.recalled = a.recalled.later d := by
    have hFinish : b.finish = a.finish.map (·.later d) := congrArg Engine.finish h.eq_later
    unfold recalled
    rw [hFinish, h.situation]
    cases a.finish <;> rfl
  rw [restoreFinish_eq, restoreFinish_eq, hRecalled]
  exact h.withSituation _

theorem finishEdge (h : Trails d shift b a) (wasFinished : Bool) :
    Trails d shift (b.finishEdge wasFinished) (a.finishEdge wasFinished) := by
  unfold Engine.finishEdge Engine.finishTask
  rw [h.finished, h.sample]
  split
  · exact (h.note (.taskFinished a.sample.clock)).saveFinish.record _
  · exact h

theorem takeOff (h : Trails d shift b a) : Trails d shift b.takeOff a.takeOff := by
  unfold Engine.takeOff
  rw [h.sample]
  exact ((h.note (.takeoff a.sample.clock)).revise (.resetAirData false)).saveFinish.record _

theorem land (h : Trails d shift b a) : Trails d shift b.land a.land := by
  have hNoted : Trails d shift (b.note (.landing (a.sample.later d).clock)) _ :=
    h.note (.landing a.sample.clock)
  unfold Engine.land
  dsimp only
  rw [h.sample, hNoted.finished]
  split
  · exact hNoted.restoreFinish.record _
  · exact hNoted.record _

/-- Flags do not move in time, so both engines see the same edges. -/
theorem phaseEdge (h : Trails d shift b a) (wasFlying : Bool) :
    Trails d shift (b.phaseEdge wasFlying) (a.phaseEdge wasFlying) := by
  unfold Engine.phaseEdge
  dsimp only
  rw [h.flying]
  split
  · exact h.takeOff
  · split
    · exact h.land
    · exact h

theorem afterAirBasics (h : Trails d shift b a) (sample : Sample) :
    Trails d shift (b.afterAirBasics (sample.later d)) (a.afterAirBasics sample) := by
  unfold Engine.afterAirBasics
  rw [h.settings]
  exact (h.accept sample).revise (.airBasics ⟨sample, a.settings⟩)

theorem beforeTeam (h : Trails d shift b a) (sample : Sample) (force : Bool) :
    Trails d shift (b.beforeTeam (sample.later d) force) (a.beforeTeam sample force) := by
  have hAir := h.afterAirBasics sample
  unfold Engine.beforeTeam Engine.afterTaskBasics
  rw [h.settings, hAir.situation]
  exact ((hAir.revise (.taskBasics ⟨sample, a.settings⟩ force)).finishEdge _).updateBand
    |>.revise (.taskMore ⟨sample, a.settings⟩ force)
    |>.revise (.taskAuto ⟨sample, a.settings⟩ force)
    |>.revise (.airVertical ⟨sample, a.settings⟩)
    |>.observe (.climbEvents sample)
    |>.revise (.cruise ⟨sample, a.settings⟩)

theorem derive (h : Trails d shift b a) (sample : Sample) (force : Bool) :
    Trails d shift (b.derive (sample.later d) force) (a.derive sample force) := by
  rw [derive_eq, derive_eq, h.settings]
  exact ((h.beforeTeam sample force).updateTeam.updateTrace.updateScale.observe
    (.monitors ⟨sample, a.settings⟩)).updateFuel.revise (.flightPhase ⟨sample, a.settings⟩)

/-- The idle clock measures differences of the sample clock. -/
theorem checkIdle (h : Trails d shift b a) :
    Trails d shift b.checkIdle.1 a.checkIdle.1 ∧ b.checkIdle.2 = a.checkIdle.2 := by
  obtain ⟨rfl, hCommutes⟩ := h
  have hChecked := PeriodClock.checkAfterStart_later a.idleClock d.clock a.sample.clock
    a.cadence.idle
  have hClock := congrArg (fun checked : PeriodClock × Bool =>
    ({ a.later d shift with idleClock := checked.1 } : Engine Memory)) hChecked
  have hDue := congrArg Prod.snd hChecked
  exact ⟨⟨hClock, hCommutes⟩, hDue⟩

/-- A later tick of a later engine has the same verdict on the idle pass. -/
theorem tick (h : Trails d shift b a) (sample : Sample) (force : Bool) :
    Trails d shift (b.tick (sample.later d) force).1 (a.tick sample force).1 ∧
      (b.tick (sample.later d) force).2 = (a.tick sample force).2 := by
  unfold Engine.tick
  rw [h.flying]
  exact ((h.derive sample force).phaseEdge _).checkIdle

theorem idlePass (h : Trails d shift b a) (exhaustive : Bool) :
    Trails d shift (b.idlePass exhaustive) (a.idlePass exhaustive) := by
  have hPassed := ((((h.observe (.statisticsLog a.sample)).observe (.recorder a.feed)).revise
    (.taskIdle a.feed exhaustive)).updateWarnings a.feed exhaustive).observe (.idleMonitors a.feed)
  dsimp only [Observation.later, Revision.later] at hPassed
  unfold Engine.idlePass
  dsimp only
  rw [h.sample, h.feed, hPassed.location]
  split
  · exact hPassed.notify (.trackPoint _)
  · exact hPassed

theorem startTask (h : Trails d shift b a) : Trails d shift b.startTask a.startTask := by
  have hNoted : Trails d shift (b.note (.taskStarted (a.sample.later d).clock)) _ :=
    h.note (.taskStarted a.sample.clock)
  have hMarked := hNoted.withSituation (a.situation.startTask a.sample.clock)
  rw [← Situation.startTask_later, ← h.situation] at hMarked
  unfold Engine.startTask
  dsimp only
  rw [h.sample]
  exact hMarked.notify .restartAirStatistics
    |>.notify (.startStatistics a.sample)
    |>.notify (.startRecorder a.sample)
    |>.notify .fastRecording
    |>.record _

/-- A reset leaves no stamps, or those of groups that it keeps. -/
theorem resetFlight (h : Trails d shift b a) (full : Bool) :
    Trails d shift (b.resetFlight full) (a.resetFlight full) := by
  have hCleared : Trails d shift (b.clearSituation full) (a.clearSituation full) := by
    obtain ⟨rfl, hCommutes⟩ := h
    refine ⟨?_, hCommutes⟩
    exact congrArg (fun s : Situation =>
      ({ a.later d shift with situation := s, finish := none } : Engine Memory))
        (Situation.reset_later a.situation d full)
  have hReset : Trails d shift ((b.clearSituation full).resetInstruments full)
      ((a.clearSituation full).resetInstruments full) :=
    (hCleared.revise (.resetAirData full)).notify (.resetTask full)
      |>.notify (.resetStatistics full)
      |>.notify .resetRecorder
      |>.notify .resetTrack
      |>.notify .resetCruise
      |>.notify .resetWarnings
  refine ⟨?_, hReset.commutes⟩
  unfold Engine.resetFlight
  rw [hReset.eq_later]
  cases full <;> rfl

theorem setSettings (h : Trails d shift b a) (settings : Settings) :
    Trails d shift (b.setSettings settings).1 (a.setSettings settings).1 ∧
      (b.setSettings settings).2 = (a.setSettings settings).2 := by
  unfold Engine.setSettings
  split
  · exact ⟨⟨congrArg (fun e : Engine Memory => { e with settings := settings }) h.eq_later,
      h.commutes⟩, rfl⟩
  · exact ⟨h.note (.settingsRejected _), rfl⟩

theorem setWaypoints (h : Trails d shift b a) (waypoints : WaypointSource) :
    Trails d shift (b.setWaypoints waypoints) (a.setWaypoints waypoints) :=
  ⟨congrArg (fun e : Engine Memory => e.setWaypoints waypoints) h.eq_later, h.commutes⟩

theorem drainEvents (h : Trails d shift b a) (limit : Option Nat) :
    Trails d shift (b.drainEvents limit).1 (a.drainEvents limit).1 ∧
      (b.drainEvents limit).2 = (a.drainEvents limit).2 := by
  obtain ⟨rfl, hCommutes⟩ := h
  exact ⟨⟨rfl, hCommutes⟩, rfl⟩

/-- Every operation commutes with the delay. Stamps reach no reply. -/
theorem perform (h : Trails d shift b a) (operation : Operation) :
    Trails d shift (b.perform (operation.later d)).1 (a.perform operation).1 ∧
      (b.perform (operation.later d)).2 = (a.perform operation).2 := by
  have hOpen := h.openJournal
  cases operation with
  | tick sample force =>
      obtain ⟨hTicked, hDue⟩ := hOpen.tick sample force
      exact ⟨hTicked, congrArg Reply.idleDue hDue⟩
  | idlePass exhaustive => exact ⟨hOpen.idlePass exhaustive, rfl⟩
  | resetFlight full => exact ⟨hOpen.resetFlight full, rfl⟩
  | startTask => exact ⟨hOpen.startTask, rfl⟩
  | enterZone => exact ⟨hOpen.notify .fastRecording, rfl⟩
  | saveFinish => exact ⟨hOpen.saveFinish, rfl⟩
  | restoreFinish => exact ⟨hOpen.restoreFinish, rfl⟩
  | setSettings settings =>
      obtain ⟨hSet, hVerdict⟩ := hOpen.setSettings settings
      exact ⟨hSet, congrArg Reply.verdict hVerdict⟩
  | setWaypoints waypoints => exact ⟨hOpen.setWaypoints waypoints, rfl⟩
  | drainEvents limit =>
      obtain ⟨hDrained, hTaken⟩ := hOpen.drainEvents limit
      exact ⟨hDrained, congrArg Reply.events hTaken⟩

end Trails

/-- What a caller sees of an operation: the situation, what it gives back and what it recorded. -/
structure View where
  situation : Situation
  reply : Reply
  recorded : List Event

def views (e : Engine Memory) : List Operation → List View
  | [] => []
  | operation :: rest =>
      let (next, reply) := e.perform operation
      ⟨next.situation, reply, next.recorded⟩ :: next.views rest

/-- The same view in a flight that is flown later: the situation is later. -/
def View.later (d : Delay) (v : View) : View := { v with situation := v.situation.later d }

section Runs

variable {d : Delay} {shift : Memory → Memory}

/-- What is shown later is what was shown, moved by the delay. -/
theorem Trails.views {b a : Engine Memory} (h : Trails d shift b a) (operations : List Operation) :
    b.views (operations.map (Operation.later d)) = (a.views operations).map (View.later d) := by
  induction operations generalizing b a with
  | nil => rfl
  | cons operation rest ih =>
      obtain ⟨hNext, hReply⟩ := h.perform operation
      simp only [List.map_cons, Engine.views, View.later, ih hNext, hNext.situation,
        hNext.recorded, hReply]

/-- A new engine holds no stamp but that of the sample that stands for none. -/
theorem trails_powerUp {i : Instruments Memory} {m : Memory} (hCommutes : i.Commutes d shift)
    (hFresh : shift m = m) (settings : Settings) (cadence : Cadence)
    (waypoints : WaypointSource) :
    Trails d shift ((powerUp i m settings cadence waypoints).withSample (({} : Sample).later d))
      (powerUp i m settings cadence waypoints) := by
  let fresh : Engine Memory :=
    { instruments := i
      memory := m
      settings := settings
      cadence := cadence
      waypoints := waypoints }
  have hUnstamped : Trails d shift (fresh.withSample (({} : Sample).later d)) fresh := by
    refine ⟨?_, hCommutes⟩
    apply Engine.ext <;> simp [fresh, withSample, later, hFresh, Situation.later_initial]
    all_goals rfl
  exact (hUnstamped.resetFlight true).record .ready

/-- Only differences of time matter, on the sample clock and of GPS time, each by itself. -/
theorem views_map_later (i : Instruments Memory) (m : Memory) (settings : Settings)
    (cadence : Cadence) (waypoints : WaypointSource) (d : Delay) (shift : Memory → Memory)
    (sample : Sample) (force : Bool) (rest : List Operation) (hCommutes : i.Commutes d shift)
    (hFresh : shift m = m) :
    let start := powerUp i m settings cadence waypoints
    start.views ((.tick sample force :: rest).map (Operation.later d)) =
      (start.views (.tick sample force :: rest)).map (View.later d) := by
  intro start
  -- The first tick replaces the sample in which alone the two new engines differ.
  have hReplaced : ∀ stale, (start.withSample stale).views
      ((.tick sample force :: rest).map (Operation.later d)) =
        start.views ((.tick sample force :: rest).map (Operation.later d)) := fun _ => rfl
  have hTrails := (trails_powerUp hCommutes hFresh settings cadence waypoints).views
    (.tick sample force :: rest)
  exact (hReplaced _).symm.trans hTrails

/-- A flight with a climb, a throttled own code and a landing after three seconds, flown a minute
later by the sample clock and a second later by GPS time. -/
theorem launched_views_map_later :
    (Instruments.launched 3000).Commutes ⟨60000, 1000⟩ (laterStamp 60000) ∧
    laterStamp 60000 none = none ∧
    let home : WaypointSource := fun id => some (Waypoint.named id "home" ⟨47.5, 11.25⟩)
    let start := powerUp (Instruments.launched 3000) none { team := { reference := some ⟨7⟩ } } {}
      home
    start.views
        (([.tick { clock := 100, time := some 5, location := some ⟨47.6, 11.5⟩ } false, .startTask,
          .tick { clock := 2000, time := some 900 } false, .idlePass true, .resetFlight false,
          .tick { clock := 4000, time := some 1700 } true, .drainEvents none] :
            List Operation).map (Operation.later ⟨60000, 1000⟩)) =
      (start.views
        [.tick { clock := 100, time := some 5, location := some ⟨47.6, 11.5⟩ } false, .startTask,
          .tick { clock := 2000, time := some 900 } false, .idlePass true, .resetFlight false,
          .tick { clock := 4000, time := some 1700 } true, .drainEvents none]).map
            (View.later ⟨60000, 1000⟩) :=
  ⟨Instruments.launched_commutes 3000 ⟨60000, 1000⟩, rfl,
    views_map_later _ none _ _ _ ⟨60000, 1000⟩ (laterStamp 60000) _ _ _
      (Instruments.launched_commutes 3000 ⟨60000, 1000⟩) rfl⟩

end Runs

end Soaring.Engine

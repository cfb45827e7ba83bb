import Soaring.Proofs.Engine.Alike
import Soaring.Proofs.Promises

/-!
A full reset against a new engine. The reset keeps the last sample and the cached team reference,
which a new engine does not have. The first tick replaces the sample, and it brings the references
together: a reference that was found is what the store would answer again, and the team group, from
which a stale one might be released, is empty by then.
-/
namespace Soaring.Engine

attribute [ext] Engine

variable {Memory : Type}

/-- What the engine remembers of the store is what the store in use answers. -/
def Coherent (e : Engine Memory) : Prop := e.tracker.reference.Coherent e.waypoints

theorem coherent_powerUp (i : Instruments Memory) (m : Memory) (settings : Settings)
    (cadence : Cadence) (waypoints : WaypointSource) :
    (powerUp i m settings cadence waypoints).Coherent := by
  unfold Coherent
  simpa [powerUp, Team.Tracker.resetThrottle] using Team.Reference.coherent_unset waypoints

/-- What a tick remembers is what the store in use answers. -/
theorem Coherent.tick {e : Engine Memory} (h : e.Coherent) (sample : Sample) (force : Bool) :
    (e.tick sample force).1.Coherent := by
  have hResolved := Team.Reference.coherent_resolve h e.settings.team.reference
    (e.beforeTeam sample force).situation.team
  unfold Coherent
  simpa [tracking, Team.reference_track, feed] using hResolved

/-- A change of the store forgets the reference; no other operation but a tick touches either. -/
theorem Coherent.perform {e : Engine Memory} (h : e.Coherent) (operation : Operation) :
    (e.perform operation).1.Coherent := by
  have hOpen : e.openJournal.Coherent := h
  cases operation with
  | tick sample force => exact hOpen.tick sample force
  | resetFlight full =>
      unfold Coherent at h ⊢
      cases full <;> simpa [Engine.perform, Team.Tracker.resetThrottle] using h
  | setWaypoints waypoints => exact Team.Reference.coherent_unset waypoints
  | idlePass | startTask | enterZone | saveFinish | restoreFinish | setSettings | drainEvents =>
      unfold Coherent at h ⊢
      simpa [Engine.perform, enterZone, drainEvents] using h

/-- What is remembered of the store is never out of date. -/
theorem Coherent.run {e : Engine Memory} (h : e.Coherent) (operations : List Operation) :
    (e.run operations).Coherent := by
  induction operations generalizing e with
  | nil => exact h
  | cons operation rest ih => exact ih (h.perform operation)

def withTracker (e : Engine Memory) (tracker : Team.Tracker) : Engine Memory :=
  { e with tracker := tracker }

def withSample (e : Engine Memory) (sample : Sample) : Engine Memory :=
  { e with sample := sample }

@[simp]
theorem withTracker_frame (e : Engine Memory) (tracker : Team.Tracker) :
    (e.withTracker tracker).instruments = e.instruments ∧
    (e.withTracker tracker).memory = e.memory ∧
    (e.withTracker tracker).settings = e.settings ∧
    (e.withTracker tracker).cadence = e.cadence ∧
    (e.withTracker tracker).waypoints = e.waypoints ∧
    (e.withTracker tracker).sample = e.sample ∧
    (e.withTracker tracker).situation = e.situation ∧
    (e.withTracker tracker).finish = e.finish ∧ (e.withTracker tracker).tracker = tracker ∧
    (e.withTracker tracker).traceClock = e.traceClock ∧
    (e.withTracker tracker).journal = e.journal :=
  ⟨rfl, rfl, rfl, rfl, rfl, rfl, rfl, rfl, rfl, rfl, rfl⟩

/-- Calls do not see the tracker, and so they commute with its replacement. -/
theorem revise_withTracker (e : Engine Memory) (tracker : Team.Tracker) (r : Revision) :
    (e.withTracker tracker).revise r = (e.revise r).withTracker tracker := rfl

theorem observe_withTracker (e : Engine Memory) (tracker : Team.Tracker) (o : Observation) :
    (e.withTracker tracker).observe o = (e.observe o).withTracker tracker := rfl

theorem updateBand_withTracker (e : Engine Memory) (tracker : Team.Tracker) :
    (e.withTracker tracker).updateBand = e.updateBand.withTracker tracker := rfl

theorem finishEdge_withTracker (e : Engine Memory) (tracker : Team.Tracker) (wasFinished : Bool) :
    (e.withTracker tracker).finishEdge wasFinished =
      (e.finishEdge wasFinished).withTracker tracker := by
  unfold finishEdge
  change (if !wasFinished && e.situation.orderedTask.finished then _ else _) = _
  split <;> rfl

/-- A tick does not ask the tracker before its team computations. -/
theorem beforeTeam_withTracker (e : Engine Memory) (tracker : Team.Tracker) (sample : Sample)
    (force : Bool) :
    (e.withTracker tracker).beforeTeam sample force =
      (e.beforeTeam sample force).withTracker tracker := by
  have hAir : (e.withTracker tracker).afterAirBasics sample =
      (e.afterAirBasics sample).withTracker tracker := rfl
  have hTask : (e.withTracker tracker).afterTaskBasics sample force =
      (e.afterTaskBasics sample force).withTracker tracker := rfl
  unfold beforeTeam
  -- By steps: to compare the two ticks as a whole is too much for the unifier.
  simp only [hAir, hTask, finishEdge_withTracker, updateBand_withTracker, revise_withTracker,
    observe_withTracker]
  rfl

/-- Before its team computations a tick leaves the team group to the instruments and to expiry. -/
theorem team_beforeTeam {e : Engine Memory} (h : e.instruments.Spares Situation.team)
    (sample : Sample) (force : Bool) :
    (e.beforeTeam sample force).situation.team = (e.accept sample).situation.team := by
  simp [beforeTeam, afterTaskBasics, afterAirBasics, h.revise]

/-- The team computations bring two engines together of which one remembers its reference and the
other has forgotten it, if no team is known yet. -/
theorem updateTeam_alike {a b : Engine Memory} {reference : Team.Reference}
    (h : Alike a (b.withTracker ⟨reference, b.tracker.ownCodeClock⟩))
    (hCoherent : reference.Coherent b.waypoints) (hUnset : b.tracker.reference = .unset)
    (hTeam : b.situation.team = {}) : Alike a.updateTeam b.updateTeam := by
  obtain ⟨hTracker, hView⟩ := Team.track_eq_track_unset hCoherent b.tracker.ownCodeClock
    b.cadence.teamCode b.feed
  have hLeft : a.tracking = Team.Tracker.track ⟨reference, b.tracker.ownCodeClock⟩
      b.cadence.teamCode b.feed b.waypoints {} := by
    rw [← hTeam]
    unfold tracking
    rw [h.tracker, h.cadence, h.feed, h.waypoints, h.situation]
    rfl
  have hRight : b.tracking = Team.Tracker.track ⟨.unset, b.tracker.ownCodeClock⟩
      b.cadence.teamCode b.feed b.waypoints {} := by
    rw [← hTeam, ← hUnset]
    rfl
  constructor
  rw [core_updateTeam, core_updateTeam, hLeft, hRight, hTracker, hView, h.core_eq, h.situation]
  rfl

/-- An engine newly built over the same instruments, in the state they are in, with the same
settings and store. -/
def rebuilt (e : Engine Memory) : Engine Memory :=
  powerUp e.instruments e.memory e.settings e.cadence e.waypoints

/-- The memory of the instruments after a reset depends on nothing but what they were told. -/
theorem memory_resetFlight (e : Engine Memory) (full : Bool) :
    (e.resetFlight full).memory =
      [Notice.resetTask full, .resetStatistics full, .resetRecorder, .resetTrack, .resetCruise,
        .resetWarnings].foldl (fun m n => e.instruments.notify n m)
          (e.instruments.revise (.resetAirData full) (e.situation.reset full) e.memory).2 := rfl

/-- What a full reset leaves behind are the last sample and the cached reference. -/
theorem fullReset_alike_rebuilt (e : Engine Memory) :
    Alike (e.resetFlight true).openJournal
      ((e.rebuilt.openJournal.withTracker ⟨e.tracker.reference, .unset⟩).withSample
        e.sample) := by
  constructor
  apply Engine.ext <;>
    simp [core, withSample, rebuilt, powerUp, memory_resetFlight, Team.Tracker.resetThrottle,
      openJournal]

/-- An empty team group has nothing that could expire. -/
theorem team_expire {s : Situation} (h : s.team = {}) (now : Stamp) :
    (s.expire now).team = {} := by
  simp [Situation.expire, Situation.mapGates, Situation.dropStaleOwnCode, h, Gate.expire,
    Gate.isFresh, Gate.closed, Gate.isValid]

theorem situation_rebuilt (e : Engine Memory) :
    e.rebuilt.situation = (e.instruments.revise (.resetAirData true) .initial e.memory).1 := by
  simp [rebuilt, powerUp]

/-- Which sample was the last one is forgotten as soon as the next one comes in. -/
theorem beforeTeam_withSample (e : Engine Memory) (old sample : Sample) (force : Bool) :
    (e.withSample old).beforeTeam sample force = e.beforeTeam sample force := by
  have hTask : (e.withSample old).afterTaskBasics sample force =
      e.afterTaskBasics sample force := rfl
  unfold beforeTeam
  rw [hTask]
  rfl

/-- The first tick makes up for everything that a full reset leaves behind. -/
theorem tick_fullReset_alike_rebuilt {e : Engine Memory}
    (hSpares : e.instruments.Spares Situation.team) (hCoherent : e.Coherent) (sample : Sample)
    (force : Bool) :
    Alike ((e.resetFlight true).openJournal.tick sample force).1
      (e.rebuilt.openJournal.tick sample force).1 := by
  have hStart := fullReset_alike_rebuilt e
  have hBefore : Alike ((e.resetFlight true).openJournal.beforeTeam sample force)
      ((e.rebuilt.openJournal.beforeTeam sample force).withTracker
        ⟨e.tracker.reference, PeriodClock.unset⟩) := by
    have hAdvanced := hStart.beforeTeam sample force
    rwa [beforeTeam_withSample, beforeTeam_withTracker] at hAdvanced
  have hTracker : (e.rebuilt.openJournal.beforeTeam sample force).tracker = ⟨.unset, .unset⟩ := by
    simp [rebuilt, powerUp, Team.Tracker.resetThrottle]
  -- The team group is empty when the computations that compare references begin.
  have hEmpty : (e.rebuilt.openJournal.beforeTeam sample force).situation.team = {} := by
    have hBuilt : e.rebuilt.situation.team = {} := by
      rw [situation_rebuilt, hSpares.revise]
      rfl
    rw [team_beforeTeam (by simpa [rebuilt, powerUp] using hSpares), situation_accept]
    apply team_expire
    exact hBuilt
  apply Alike.tick_of_updateTeam
  · refine updateTeam_alike (by rwa [hTracker]) ?_ (by rw [hTracker]) hEmpty
    unfold Coherent at hCoherent
    simpa [rebuilt, powerUp] using hCoherent
  · exact hStart.settings
  · rw [hStart.situation]
    rfl

/-- A full reset is as good as a new engine. After any run of operations, over instruments that do
not write the team group, an engine that is fully reset and one that is built anew over the same
instruments, settings and store show the same outcomes of every sequence of operations that starts
with a tick. Outcomes leave out the idle flag, notes, lookups and the events that were waiting. -/
theorem fullReset_outcomes_eq_rebuilt (i : Instruments Memory) (m : Memory) (settings : Settings)
    (cadence : Cadence) (waypoints : WaypointSource) (past future : List Operation)
    (sample : Sample) (force : Bool) (hSpares : i.Spares Situation.team) :
    let e := (powerUp i m settings cadence waypoints).run past
    (e.perform (.resetFlight true)).1.outcomes (.tick sample force :: future) =
      e.rebuilt.outcomes (.tick sample force :: future) := by
  intro e
  have hInstruments : e.openJournal.instruments = i := by
    simp [e, powerUp]
  have hCoherent : e.openJournal.Coherent :=
    (coherent_powerUp i m settings cadence waypoints).run past
  have hFirst : Alike ((e.perform (.resetFlight true)).1.perform (.tick sample force)).1
      (e.rebuilt.perform (.tick sample force)).1 :=
    tick_fullReset_alike_rebuilt (e := e.openJournal) (by rwa [hInstruments]) hCoherent sample force
  unfold outcomes
  rw [Alike.outcome_perform hFirst, hFirst.outcomes future]

/-- A reference was found and is then named no more, so the first tick after the reset releases what
a new engine never had. -/
theorem releasedReference_outcomes_eq_rebuilt :
    Instruments.none.Spares Situation.team ∧
    let store : WaypointSource := fun id => some (Waypoint.named id "home" ⟨47.5, 11.25⟩)
    let named : Settings := { team := { reference := some ⟨7⟩ } }
    let e := (powerUp Instruments.none () named {} store).run
      [.tick { location := some ⟨47.6, 11.5⟩ } false, .setSettings {}]
    (e.perform (.resetFlight true)).1.outcomes
        [.tick { clock := 100 } false, .restoreFinish, .setSettings named,
          .tick { clock := 200 } true] =
      e.rebuilt.outcomes
        [.tick { clock := 100 } false, .restoreFinish, .setSettings named,
          .tick { clock := 200 } true] :=
  ⟨fun _ _ _ _ => rfl, fullReset_outcomes_eq_rebuilt Instruments.none () _ {} _ _ _ _ _
    fun _ _ _ _ => rfl⟩

end Soaring.Engine

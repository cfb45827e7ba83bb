import Mathlib.Data.List.Induction
import Soaring.Proofs.Engine.PowerUp

/-!
The cached team reference over whole runs. A tick computes with what the store answers at that time,
whatever is cached. The cache shows in the journal only: the store is not asked for a waypoint that
the tick before has found, and the failure to find one is not noted twice in a row. What the tick
before has found counts until the store is replaced.
-/
namespace Soaring

/-- The store was consulted. -/
def Entry.isLookup : Entry → Bool
  | .lookup _ => true
  | .call _ | .note _ | .event _ => false

/-- A tick resolves the reference anew, and a new store makes the engine forget it. -/
def Operation.concernsReference : Operation → Bool
  | .tick _ _ | .setWaypoints _ => true
  | .idlePass _ | .resetFlight _ | .startTask | .enterZone | .saveFinish | .restoreFinish
  | .setSettings _ | .drainEvents _ => false

namespace Team.Reference

variable (r : Reference) (named : Option WaypointId) (source : WaypointSource) (team : TeamView)

/-- The store is asked for the waypoint that is named, unless that is resolved already. -/
theorem lookup_mem_entries_resolve_iff (id : WaypointId) :
    .lookup id ∈ (r.resolve named source team).entries ↔
      named = some id ∧ r.isResolved id = false := by
  cases named with
  | none => simp [resolve, release]
  | some other =>
      rw [entries_resolve]
      cases hResolved : r.isResolved other <;> cases source other <;>
        cases r.isMissing other <;> grind

/-- A failure is noted when the store has no answer for the waypoint named, unless that is known
already. -/
theorem notFound_mem_entries_resolve_iff {r : Reference} (h : r.Coherent source)
    (id : WaypointId) :
    .note (.referenceNotFound id) ∈ (r.resolve named source team).entries ↔
      named = some id ∧ source id = none ∧ r.isMissing id = false := by
  cases named with
  | none => simp [resolve, release]
  | some other =>
      have hFound : r.isResolved other = true → source other ≠ none := h.ne_none_of_isResolved
      rw [entries_resolve]
      cases hResolved : r.isResolved other <;> cases hSource : source other <;>
        cases hMissing : r.isMissing other <;> grind

/-- One tick asks the store at most once. -/
theorem countP_isLookup_entries_resolve_le :
    (r.resolve named source team).entries.countP Entry.isLookup ≤ 1 := by
  cases named with
  | none => exact Nat.zero_le 1
  | some id =>
      rw [entries_resolve]
      cases r.isResolved id <;> cases source id <;> cases r.isMissing id <;>
        simp [List.countP_cons, Entry.isLookup]

end Team.Reference

namespace Engine

variable {Memory : Type}

/-- What the current operation has entered about the team reference. -/
def onReference (e : Engine Memory) : List Entry := e.journal.filter Entry.ofReference

@[simp]
theorem onReference_enter (e : Engine Memory) (entries : List Entry) :
    (e.enter entries).onReference = e.onReference ++ entries.filter Entry.ofReference :=
  List.filter_append ..

theorem onReference_note {n : Note} (e : Engine Memory) (h : Entry.ofReference (.note n) = false) :
    (e.note n).onReference = e.onReference := by
  simp [note, h]

@[simp]
theorem onReference_revise (e : Engine Memory) (r : Revision) :
    (e.revise r).onReference = e.onReference :=
  (onReference_enter e _).trans (List.append_nil _)

@[simp]
theorem onReference_observe (e : Engine Memory) (o : Observation) :
    (e.observe o).onReference = e.onReference :=
  (onReference_enter e _).trans (List.append_nil _)

@[simp]
theorem onReference_applyStatistics (e : Engine Memory)
    (change : Statistics → Situation → Situation) :
    (e.applyStatistics change).onReference = e.onReference :=
  (onReference_enter e _).trans (List.append_nil _)

@[simp]
theorem onReference_record (e : Engine Memory) (event : Event) :
    (e.record event).onReference = e.onReference := by
  change (e.enter _).onReference = _
  rw [onReference_enter]
  cases e.events.overflow? <;> exact List.append_nil _

@[simp]
theorem onReference_saveFinish (e : Engine Memory) :
    e.saveFinish.onReference = e.onReference := rfl

@[simp]
theorem onReference_restoreFinish (e : Engine Memory) :
    e.restoreFinish.onReference = e.onReference := by
  rw [restoreFinish_eq]
  rfl

@[simp]
theorem onReference_finishEdge (e : Engine Memory) (wasFinished : Bool) :
    (e.finishEdge wasFinished).onReference = e.onReference := by
  unfold finishEdge finishTask
  split
  · simpa using onReference_note e rfl
  · rfl

@[simp]
theorem onReference_updateTrace (e : Engine Memory) :
    e.updateTrace.onReference = e.onReference := by
  rw [updateTrace_eq]
  show (e.enter (traceNotes (e.traceStep e.sample).2)).onReference = e.onReference
  rw [onReference_enter]
  cases (e.traceStep e.sample).2 <;> exact List.append_nil _

@[simp]
theorem onReference_phaseEdge (e : Engine Memory) (wasFlying : Bool) :
    (e.phaseEdge wasFlying).onReference = e.onReference := by
  rcases phaseEdge_cases e wasFlying with ⟨-, -, h⟩ | ⟨-, -, h⟩ | ⟨-, h⟩
  · rw [h]
    simpa [takeOff] using onReference_note e rfl
  · rw [h]
    unfold land
    dsimp only
    split <;> simpa using onReference_note e rfl
  · rw [h]

/-- What a tick enters about the reference comes from its team computations. -/
theorem onReference_tick (e : Engine Memory) (sample : Sample) (force : Bool) :
    (e.perform (.tick sample force)).1.onReference =
      (e.tracker.reference.resolve e.settings.team.reference e.waypoints
        (e.openJournal.beforeTeam sample force).situation.team).entries := by
  have hTick : (e.perform (.tick sample force)).1.onReference =
      (e.openJournal.derive sample force).onReference :=
    onReference_phaseEdge (e.openJournal.derive sample force) e.situation.flight.flying
  have hBefore : (e.openJournal.beforeTeam sample force).onReference = [] := by
    simp only [beforeTeam, afterTaskBasics, afterAirBasics, updateBand, onReference_revise,
      onReference_observe, onReference_applyStatistics, onReference_finishEdge]
    rfl
  have hTeam : ∀ e : Engine Memory, e.updateTeam.onReference =
      e.onReference ++ e.tracking.entries := by
    intro e
    have hAll : e.tracking.entries.filter Entry.ofReference = e.tracking.entries :=
      List.filter_eq_self.mpr fun _ => Team.ofReference_of_mem_track
    change (e.enter e.tracking.entries).onReference = _
    rw [onReference_enter, hAll]
  have hFuel : ∀ e : Engine Memory, e.updateFuel.onReference = e.onReference := fun _ => rfl
  rw [hTick, derive_eq]
  simp only [updateScale, onReference_revise, hFuel, onReference_observe,
    onReference_applyStatistics, onReference_updateTrace, hTeam, hBefore, List.nil_append]
  simp [tracking, Team.entries_track, feed]

/-- The location that the team computations of a tick are made for, if they are made. -/
def usedReference (e : Engine Memory) (sample : Sample) (force : Bool) : Option Geo.Point :=
  let begun := e.openJournal.beforeTeam sample force
  (begun.tracker.reference.resolve begun.settings.team.reference begun.waypoints
    begun.situation.team).location

/-- The tick is made with the waypoint named, and resolves it. -/
def Resolves (id : WaypointId) (e : Engine Memory) (sample : Sample) (force : Bool) : Prop :=
  e.settings.team.reference = some id ∧ e.usedReference sample force ≠ none

/-- The tick is made with the waypoint named, and fails on it. -/
def Fails (id : WaypointId) (e : Engine Memory) (sample : Sample) (force : Bool) : Prop :=
  e.settings.team.reference = some id ∧ e.usedReference sample force = none

/-- There was a tick, the latest one had the property in the state in which it was made, and the
store has not been replaced since. -/
def LatestTick (start : Engine Memory) (past : List Operation)
    (property : Engine Memory → Sample → Bool → Prop) : Prop :=
  ∃ before sample force between, past = before ++ .tick sample force :: between ∧
    (∀ operation ∈ between, operation.concernsReference = false) ∧
    property (start.run before) sample force

theorem not_latestTick_nil (start : Engine Memory)
    (property : Engine Memory → Sample → Bool → Prop) : ¬ start.LatestTick [] property := by
  rintro ⟨before, sample, force, between, hPast, -, -⟩
  simp at hPast

/-- Either the last operation of a run is the latest tick, or it does not concern the reference and
the latest tick is that of the run before it. -/
theorem latestTick_concat_iff {start : Engine Memory} {past : List Operation}
    {operation : Operation} {property : Engine Memory → Sample → Bool → Prop} :
    start.LatestTick (past ++ [operation]) property ↔
      (∃ sample force, operation = .tick sample force ∧ property (start.run past) sample force) ∨
      (operation.concernsReference = false ∧ start.LatestTick past property) := by
  constructor
  · rintro ⟨before, sample, force, between, hPast, hBetween, hProperty⟩
    rcases List.eq_nil_or_concat between with rfl | ⟨between, last, rfl⟩
    · obtain ⟨rfl, hTick⟩ := List.append_inj' hPast rfl
      exact .inl ⟨sample, force, List.singleton_inj.mp hTick, hProperty⟩
    · rw [List.concat_eq_append] at hPast hBetween
      have hSplit : past ++ [operation] = (before ++ .tick sample force :: between) ++ [last] := by
        simpa using hPast
      obtain ⟨rfl, hLast⟩ := List.append_inj' hSplit rfl
      obtain rfl := List.singleton_inj.mp hLast
      refine .inr ⟨hBetween operation (by simp), before, sample, force, between, rfl, ?_, hProperty⟩
      intro earlier hEarlier
      exact hBetween earlier (List.mem_append_left _ hEarlier)
  · rintro (⟨sample, force, rfl, hProperty⟩ | ⟨hOther, before, sample, force, between, rfl,
      hBetween, hProperty⟩)
    · exact ⟨past, sample, force, [], rfl, by simp, hProperty⟩
    · refine ⟨before, sample, force, between ++ [operation], by simp, ?_, hProperty⟩
      intro later hLater
      rcases List.mem_append.mp hLater with hEarlier | hLast
      · exact hBetween later hEarlier
      · rwa [List.mem_singleton.mp hLast]

/-- What does not concern the reference does not touch it. -/
theorem reference_perform {operation : Operation} (h : operation.concernsReference = false)
    (e : Engine Memory) :
    (e.perform operation).1.tracker.reference = e.tracker.reference := by
  cases operation with
  | tick | setWaypoints => cases h
  | resetFlight full => cases full <;> simp [perform, Team.Tracker.resetThrottle]
  | idlePass | startTask | enterZone | saveFinish | restoreFinish | setSettings | drainEvents =>
      simp [perform, enterZone, drainEvents]

/-- A tick resolves the reference from what it finds, with the settings and the store of that
time. -/
theorem reference_tick (e : Engine Memory) (sample : Sample) (force : Bool) :
    (e.perform (.tick sample force)).1.tracker.reference =
      (e.tracker.reference.resolve e.settings.team.reference e.waypoints
        (e.openJournal.beforeTeam sample force).situation.team).reference := by
  change (e.openJournal.tick sample force).1.tracker.reference = _
  simp [tracking, Team.reference_track, feed]

/-- Whatever is remembered is what the latest tick has left, unless the store was replaced since. -/
theorem reference_run_iff (known : Team.Reference → Bool) (hUnset : known .unset = false)
    {start : Engine Memory} (hStart : start.tracker.reference = .unset) (past : List Operation) :
    known (start.run past).tracker.reference = true ↔
      start.LatestTick past fun e sample force =>
        known (e.perform (.tick sample force)).1.tracker.reference = true := by
  -- From the end: the last operation decides, or it leaves both sides as they are.
  induction past using List.reverseRecOn with
  | nil => simp [run, hStart, hUnset, not_latestTick_nil]
  | append_singleton past operation ih =>
      rw [run_concat, latestTick_concat_iff]
      cases hKind : operation.concernsReference with
      | false =>
          have hNoTick : ∀ sample force, operation ≠ .tick sample force := by
            rintro sample force rfl
            cases hKind
          simp [reference_perform hKind, ih, hNoTick]
      | true =>
          cases operation with
          | tick sample force =>
              constructor
              · exact fun hKnown => .inl ⟨sample, force, rfl, hKnown⟩
              · rintro (⟨_, _, hSame, hKnown⟩ | ⟨hOther, -⟩)
                · cases hSame
                  exact hKnown
                · cases hOther
          | setWaypoints waypoints =>
              simp [perform, setWaypoints, Team.Tracker.forgetReference, hUnset]
          | idlePass | resetFlight | startTask | enterZone | saveFinish | restoreFinish
          | setSettings | drainEvents => cases hKind

theorem usedReference_eq (e : Engine Memory) (sample : Sample) (force : Bool) :
    e.usedReference sample force =
      (e.tracker.reference.resolve e.settings.team.reference e.waypoints
        (e.openJournal.beforeTeam sample force).situation.team).location := by
  simp [usedReference]

/-- A waypoint is held as resolved if the latest tick has resolved it. -/
theorem isResolved_run_iff {start : Engine Memory} (hStart : start.tracker.reference = .unset)
    (past : List Operation) (id : WaypointId) :
    (start.run past).tracker.reference.isResolved id = true ↔
      start.LatestTick past (Resolves id) := by
  have hStep : ∀ (e : Engine Memory) sample force,
      (e.perform (.tick sample force)).1.tracker.reference.isResolved id = true ↔
        e.Resolves id sample force := by
    intro e sample force
    rw [reference_tick, Team.Reference.isResolved_resolve_iff, Resolves, usedReference_eq]
  rw [reference_run_iff (fun r => r.isResolved id) rfl hStart]
  simp only [hStep]

/-- A waypoint is held as missing if the latest tick has failed on it. -/
theorem isMissing_run_iff {start : Engine Memory} (hStart : start.tracker.reference = .unset)
    (past : List Operation) (id : WaypointId) :
    (start.run past).tracker.reference.isMissing id = true ↔ start.LatestTick past (Fails id) := by
  have hStep : ∀ (e : Engine Memory) sample force,
      (e.perform (.tick sample force)).1.tracker.reference.isMissing id = true ↔
        e.Fails id sample force := by
    intro e sample force
    rw [reference_tick, Team.Reference.isMissing_resolve_iff, Fails, usedReference_eq]
  rw [reference_run_iff (fun r => r.isMissing id) rfl hStart]
  simp only [hStep]

/-- Of all entries of a tick, those about the reference can be read off from the cache and the
store. -/
theorem mem_journal_tick_iff {entry : Entry} (h : entry.ofReference = true) (e : Engine Memory)
    (sample : Sample) (force : Bool) :
    entry ∈ (e.perform (.tick sample force)).1.journal ↔
      entry ∈ (e.tracker.reference.resolve e.settings.team.reference e.waypoints
        (e.openJournal.beforeTeam sample force).situation.team).entries := by
  rw [← onReference_tick e sample force, onReference, List.mem_filter]
  simp [h]

/-- Nothing else in a tick asks the store. -/
theorem countP_isLookup_tick_le (e : Engine Memory) (sample : Sample) (force : Bool) :
    (e.perform (.tick sample force)).1.journal.countP Entry.isLookup ≤ 1 := by
  have hAll : (e.perform (.tick sample force)).1.journal.countP Entry.isLookup =
      (e.perform (.tick sample force)).1.onReference.countP Entry.isLookup := by
    rw [onReference, List.countP_filter]
    apply List.countP_congr
    intro entry hEntry
    cases entry <;> simp [Entry.isLookup, Entry.ofReference]
  rw [hAll, onReference_tick]
  exact Team.Reference.countP_isLookup_entries_resolve_le ..

/-- The cached reference agrees with a direct lookup. In every tick of every run the location that
the team computations are made for is the one that the store in use has for the waypoint that the
settings name then. With a waypoint named, these computations are those for that answer, and they
publish it. The store is asked at most once, and it is asked for a waypoint unless that is what the
latest tick has resolved with the same store. Likewise a failure is noted unless the latest tick has
failed on the same waypoint with the same store. -/
theorem reference_tick_eq_lookup (i : Instruments Memory) (m : Memory) (settings : Settings)
    (cadence : Cadence) (waypoints : WaypointSource) (past : List Operation) (sample : Sample)
    (force : Bool) :
    let start := powerUp i m settings cadence waypoints
    let e := start.run past
    let named := e.settings.team.reference
    let answer := (named.bind e.waypoints).map Waypoint.location
    let begun := e.openJournal.beforeTeam sample force
    let after := (e.perform (.tick sample force)).1
    e.usedReference sample force = answer ∧
    (named ≠ none →
      begun.updateTeam.situation.team = (Team.compute e.tracker.ownCodeClock e.cadence.teamCode
        ⟨sample, e.settings⟩ answer begun.situation.team).2 ∧
      begun.updateTeam.situation.team.reference = answer) ∧
    after.journal.countP Entry.isLookup ≤ 1 ∧
    (∀ id, .lookup id ∈ after.journal ↔
      named = some id ∧ ¬ start.LatestTick past (Resolves id)) ∧
    (∀ id, .note (.referenceNotFound id) ∈ after.journal ↔
      named = some id ∧ e.waypoints id = none ∧ ¬ start.LatestTick past (Fails id)) := by
  intro start e named answer begun after
  have hCoherent : e.tracker.reference.Coherent e.waypoints :=
    (coherent_powerUp i m settings cadence waypoints).run past
  have hStart : start.tracker.reference = .unset := by
    simp [start, powerUp, Team.Tracker.resetThrottle]
  refine ⟨?_, ?_, ?_, ?_, ?_⟩
  · rw [usedReference_eq]
    exact Team.Reference.location_resolve hCoherent named _
  · intro hNamed
    obtain ⟨id, hId⟩ := Option.ne_none_iff_exists'.mp hNamed
    obtain ⟨-, hTeam⟩ := Team.track_eq_compute e.tracker e.cadence.teamCode ⟨sample, e.settings⟩
      begun.situation.team hCoherent hId
    have hView : begun.updateTeam.situation.team = (Team.compute e.tracker.ownCodeClock
        e.cadence.teamCode ⟨sample, e.settings⟩ answer begun.situation.team).2 := by
      simpa [begun, answer, named, hId, tracking, feed] using hTeam
    exact ⟨hView, by rw [hView, Team.reference_compute]⟩
  · exact countP_isLookup_tick_le e sample force
  · intro id
    rw [mem_journal_tick_iff rfl, ← isResolved_run_iff hStart,
      Team.Reference.lookup_mem_entries_resolve_iff, Bool.not_eq_true]
  · intro id
    rw [mem_journal_tick_iff rfl, ← isMissing_run_iff hStart,
      Team.Reference.notFound_mem_entries_resolve_iff _ _ _ hCoherent, Bool.not_eq_true]

end Engine

end Soaring

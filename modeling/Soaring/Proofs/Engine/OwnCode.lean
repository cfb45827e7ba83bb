import Mathlib.Data.List.Induction
import Soaring.Proofs.Engine.Invariants
import Soaring.Proofs.Engine.PowerUp
import Soaring.Proofs.Situation.Expiry

/-!
The own team code on its two time-outs: the throttle holds back a new one, and the gate closes on an
old one. Throttle and gate go together: an open gate carries the time at which the throttle fired
last, and a closed one has closed because that time is too long ago. So the throttle, whose interval
is not longer than the gate stays open, is due before there is no own code to show.
-/
namespace Soaring

/-- A clock is not due as long as it has fired in the interval that ends now. -/
theorem PeriodClock.isDue_eq_false_iff (c : PeriodClock) (now interval : Stamp) :
    c.isDue now interval = false ↔ ∃ t, c.last = some t ∧ t ≤ now ∧ now - t < interval := by
  unfold isDue
  cases c.last <;> simp

namespace Team

/-- At the given time, an own code is shown with the time at which the throttle fired last, and it
is shown as long as it is not too old. -/
structure Throttled (clock : PeriodClock) (team : TeamView) (now : Stamp) : Prop where
  shown : ∀ t, team.ownCodeAvailable.stamp = some t → clock.last = some t ∧ team.ownCode ≠ none
  fired : ∀ t, clock.last = some t →
    t ≤ now ∧ (team.ownCodeAvailable.stamp = some t ∨ Gated.ownCode.maxAge < now - t)

theorem throttled_unset (now : Stamp) : Throttled .unset {} now := by
  constructor
  · intro t hShown
    cases hShown
  · intro t hFired
    cases hFired

section

variable {clock : PeriodClock} {now : Stamp}

/-- Time goes on and closes the gate when the throttle has been silent for too long. -/
theorem Throttled.expire {s : Situation} (h : Throttled clock s.team now) {later : Stamp}
    (hLater : now ≤ later) : Throttled clock (s.expire later).team later := by
  rw [Situation.team_expire_eq]
  constructor
  · intro t hShown
    dsimp only at hShown ⊢
    have hOpen : (s.team.ownCodeAvailable.expire later Gated.ownCode.maxAge).isValid = true := by
      rw [Gate.isValid, hShown]
      rfl
    have hBefore : s.team.ownCodeAvailable.stamp = some t := by
      rw [Gate.stamp_expire] at hShown
      exact (Option.filter_eq_some_iff.mp hShown).1
    rw [if_pos hOpen]
    exact h.shown t hBefore
  · intro t hFired
    obtain ⟨hPast, hState⟩ := h.fired t hFired
    have hPassed : t ≤ later := Nat.le_trans hPast hLater
    refine ⟨hPassed, ?_⟩
    dsimp only
    rcases hState with hShown | hOld
    · by_cases hFresh : later - t ≤ Gated.ownCode.maxAge
      · left
        have hCurrent : s.team.ownCodeAvailable.isFresh later Gated.ownCode.maxAge = true := by
          simp [Gate.isFresh, hShown, hFresh, hPassed]
        rwa [Gate.expire, if_pos hCurrent]
      · exact .inr (Nat.lt_of_not_le hFresh)
    · exact .inr (Nat.lt_of_lt_of_le hOld (Nat.sub_le_sub_right hLater t))

variable (clock) (interval : Nat) (feed : Feed) (answer : Option Geo.Point) (team : TeamView)

/-- Either the throttle fires and gives an own code of now, or nothing happens to throttle and own
code; with a position and a reference that is because the throttle is not due. -/
theorem ownCode_compute_cases :
    let after := compute clock interval feed answer team
    (clock.isDue feed.sample.clock interval = true ∧ after.1.last = some feed.sample.clock ∧
      after.2.ownCode ≠ none ∧ after.2.ownCodeAvailable = .updatedAt feed.sample.clock) ∨
    (after.1 = clock ∧ after.2.ownCode = team.ownCode ∧
      after.2.ownCodeAvailable = team.ownCodeAvailable ∧
      (answer ≠ none → feed.sample.location ≠ none →
        clock.isDue feed.sample.clock interval = false)) := by
  cases answer with
  | none => exact .inr ⟨rfl, rfl, rfl, fun h => absurd rfl h⟩
  | some reference =>
      cases hLocation : feed.sample.location with
      | none => exact .inr (by simp [compute, updateOwnCode, hLocation])
      | some own =>
          cases hDue : clock.isDue feed.sample.clock interval with
          | true =>
              exact .inl (by simp [compute, updateOwnCode, hLocation, PeriodClock.check, hDue])
          | false =>
              exact .inr (by simp [compute, updateOwnCode, hLocation, PeriodClock.check, hDue])

variable {clock interval team}

/-- Whether the throttle fires or not, gate and throttle still go together. -/
theorem Throttled.compute (h : Throttled clock team feed.sample.clock) :
    Throttled (compute clock interval feed answer team).1
      (compute clock interval feed answer team).2 feed.sample.clock := by
  rcases ownCode_compute_cases clock interval feed answer team with
    ⟨-, hFired, hCode, hGate⟩ | ⟨hClock, hCode, hGate, -⟩
  · constructor
    · intro t hShown
      rw [hGate] at hShown
      obtain rfl : feed.sample.clock = t := Option.some.inj hShown
      exact ⟨hFired, hCode⟩
    · intro t hLast
      obtain rfl : feed.sample.clock = t := Option.some.inj (hFired.symm.trans hLast)
      exact ⟨Nat.le_refl _, .inl (by rw [hGate]; rfl)⟩
  · rw [hClock]
    constructor
    · rw [hGate, hCode]
      exact h.shown
    · rw [hGate]
      exact h.fired

/-- With a position and a reference there is an own code, of now or of the interval that ends now. A
throttle that is not due has fired in that time, in which the gate does not close. -/
theorem Throttled.ownCode_compute (h : Throttled clock team feed.sample.clock)
    (hInterval : interval ≤ Gated.ownCode.maxAge) (hReference : answer ≠ none)
    (hLocation : feed.sample.location ≠ none) :
    let after := Team.compute clock interval feed answer team
    after.2.ownCode ≠ none ∧ ∃ t, after.2.ownCodeAvailable.stamp = some t ∧
      t ≤ feed.sample.clock ∧ (t = feed.sample.clock ∨ feed.sample.clock - t < interval) := by
  intro after
  rcases ownCode_compute_cases clock interval feed answer team with
    ⟨-, -, hCode, hGate⟩ | ⟨-, hCode, hGate, hSilent⟩
  · exact ⟨hCode, feed.sample.clock, by rw [hGate]; rfl, Nat.le_refl _, .inl rfl⟩
  · obtain ⟨t, hFired, hPast, hRecent⟩ :=
      (clock.isDue_eq_false_iff _ _).mp (hSilent hReference hLocation)
    have hYoung : ¬ Gated.ownCode.maxAge < feed.sample.clock - t :=
      Nat.not_lt.mpr (Nat.le_trans (Nat.le_of_lt hRecent) hInterval)
    have hShown := (h.fired t hFired).2.resolve_right hYoung
    exact ⟨by rw [hCode]; exact (h.shown t hShown).2, t, by rw [hGate]; exact hShown, hPast,
      .inr hRecent⟩

/-- Since it fired at the given time the throttle has not fired again, or not before the interval
was over. -/
def Spaced (clock : PeriodClock) (first : Stamp) (interval : Nat) : Prop :=
  ∃ last, clock.last = some last ∧ (last = first ∨ first + interval ≤ last)

/-- A throttle that fires again was due, so the interval was over. -/
theorem Spaced.compute {first : Stamp} (hSpaced : Spaced clock first interval)
    (h : Throttled clock team feed.sample.clock) :
    Spaced (compute clock interval feed answer team).1 first interval := by
  rcases ownCode_compute_cases clock interval feed answer team with
    ⟨hDue, hFired, -, -⟩ | ⟨hClock, -, -, -⟩
  · obtain ⟨last, hLast, hFirst⟩ := hSpaced
    have hPast := (h.fired last hLast).1
    have hOver : last + interval ≤ feed.sample.clock := by
      refine Nat.add_le_of_le_sub' hPast (Nat.le_of_not_lt fun hRecent => ?_)
      have hNotDue := (clock.isDue_eq_false_iff _ _).mpr ⟨last, hLast, hPast, hRecent⟩
      cases hDue.symm.trans hNotDue
    refine ⟨feed.sample.clock, hFired, .inr ?_⟩
    rcases hFirst with rfl | hLater
    · exact hOver
    · exact Nat.le_trans hLater hPast
  · rwa [hClock]

end

end Team

def Operation.sample? : Operation → Option Sample
  | .tick sample _ => some sample
  | .idlePass _ | .resetFlight _ | .startTask | .enterZone | .saveFinish | .restoreFinish
  | .setSettings _ | .setWaypoints _ | .drainEvents _ => none

namespace Engine

variable {Memory : Type}

/-- Only ticks bring samples. -/
theorem exists_eq_tick {operation : Operation} {sample : Sample}
    (h : operation.sample? = some sample) : ∃ force, operation = .tick sample force := by
  cases operation with
  | tick taken force =>
      obtain rfl : taken = sample := Option.some.inj h
      exact ⟨force, rfl⟩
  | idlePass | resetFlight | startTask | enterZone | saveFinish | restoreFinish | setSettings
  | setWaypoints | drainEvents => cases h

/-- A run in which the sample clocks do not go back, every tick has a waypoint named, and no
snapshot comes back. -/
structure Steady (start : Engine Memory) (operations : List Operation) : Prop where
  clocks : (operations.filterMap Operation.sample?).Pairwise fun earlier later =>
    earlier.clock ≤ later.clock
  named : ∀ past sample force, past ++ [.tick sample force] <+: operations →
    (start.run past).settings.team.reference ≠ none
  kept : ∀ past operation, past ++ [operation] <+: operations →
    (start.run past).recalls operation = false

theorem Steady.of_prefix {start : Engine Memory} {past operations : List Operation}
    (h : start.Steady operations) (hPast : past <+: operations) : start.Steady past := by
  refine ⟨h.clocks.sublist (hPast.filterMap _).sublist, ?_, ?_⟩
  · intro earlier sample force hEarlier
    exact h.named earlier sample force (hEarlier.trans hPast)
  · intro earlier operation hEarlier
    exact h.kept earlier operation (hEarlier.trans hPast)

theorem sample_perform (e : Engine Memory) (operation : Operation) :
    (e.perform operation).1.sample = operation.sample?.getD e.sample := by
  cases operation with
  | tick sample force => exact (tick_frame e.openJournal sample force).2.2.2.2.1
  | resetFlight | idlePass | startTask | enterZone | saveFinish | restoreFinish | setSettings
  | setWaypoints | drainEvents =>
      simp [perform, Operation.sample?, enterZone, setWaypoints, drainEvents]

/-- The sample of an engine is the one that it started with or came with one of the ticks. -/
theorem sample_run (e : Engine Memory) (past : List Operation) :
    (e.run past).sample = e.sample ∨ (e.run past).sample ∈ past.filterMap Operation.sample? := by
  induction past using List.reverseRecOn with
  | nil => exact .inl rfl
  | append_singleton past operation ih =>
      rw [run_concat, sample_perform, List.filterMap_append]
      cases hSample : operation.sample? with
      | none => simpa [hSample] using ih
      | some sample => simp [hSample]

/-- What a steady run has for each of its operations in the state that the operation finds. -/
structure SteadyStep (e : Engine Memory) (operation : Operation) : Prop where
  clock : ∀ sample, operation.sample? = some sample → e.sample.clock ≤ sample.clock
  named : ∀ sample force, operation = .tick sample force → e.settings.team.reference ≠ none
  kept : e.recalls operation = false

/-- The clock before a step is that of an earlier tick, so in a steady run the step does not go
back. -/
theorem Steady.step {start : Engine Memory} {past : List Operation} {operation : Operation}
    (h : start.Steady (past ++ [operation])) (hStart : start.sample.clock = 0) :
    (start.run past).SteadyStep operation := by
  refine ⟨?_, ?_, h.kept past operation (List.prefix_refl _)⟩
  · intro sample hSample
    have hClocks := h.clocks
    rw [List.filterMap_append, List.pairwise_append] at hClocks
    rcases sample_run start past with hFirst | hEarlier
    · rw [hFirst, hStart]
      exact Nat.zero_le _
    · exact hClocks.2.2 _ hEarlier sample (by simp [hSample])
  · rintro sample force rfl
    exact h.named past sample force (List.prefix_refl _)

section

variable {e : Engine Memory}

/-- The team computations of a tick start from what expiry has left of the team group. -/
theorem tracking_beforeTeam (hSpares : e.instruments.Spares Situation.team) (sample : Sample)
    (force : Bool) :
    (e.openJournal.beforeTeam sample force).tracking =
      e.tracker.track e.cadence.teamCode ⟨sample, e.settings⟩ e.waypoints
        (e.situation.expire sample.clock).team := by
  have hExpired : (e.openJournal.beforeTeam sample force).situation.team =
      (e.situation.expire sample.clock).team := by
    rw [team_beforeTeam (by simpa using hSpares), situation_accept, Situation.team_expire_eq,
      Situation.team_expire_eq]
    rfl
  simp [tracking, feed, hExpired]

/-- A tick that brings no snapshot back shows the team group that its computations have led to. -/
theorem team_tick (hSpares : e.instruments.Spares Situation.team) {sample : Sample} {force : Bool}
    (hKept : e.recalls (.tick sample force) = false) :
    (e.perform (.tick sample force)).1.situation.team =
      (e.tracker.track e.cadence.teamCode ⟨sample, e.settings⟩ e.waypoints
        (e.situation.expire sample.clock).team).team := by
  rw [spared_tick hSpares hKept, ← tracking_beforeTeam hSpares sample force]
  simp [derive_eq, hSpares.revise]

/-- Throttle and team group after a tick: the team computations on what expiry has left. -/
theorem ownCode_tick (hSpares : e.instruments.Spares Situation.team) (hCoherent : e.Coherent)
    {id : WaypointId} (hNamed : e.settings.team.reference = some id) {sample : Sample}
    {force : Bool} (hKept : e.recalls (.tick sample force) = false) :
    let answered := Team.compute e.tracker.ownCodeClock e.cadence.teamCode ⟨sample, e.settings⟩
      ((e.waypoints id).map Waypoint.location) (e.situation.expire sample.clock).team
    (e.perform (.tick sample force)).1.tracker.ownCodeClock = answered.1 ∧
    (e.perform (.tick sample force)).1.situation.team = answered.2 := by
  obtain ⟨hClock, hTeam⟩ := Team.track_eq_compute e.tracker e.cadence.teamCode
    ⟨sample, e.settings⟩ (e.situation.expire sample.clock).team hCoherent hNamed
  refine ⟨?_, ?_⟩
  · rw [← hClock, ← tracking_beforeTeam hSpares sample force]
    exact congrArg Team.Tracker.ownCodeClock (tick_frame e.openJournal sample force).2.2.2.2.2.1
  · rw [← hTeam]
    exact team_tick hSpares hKept

/-- No other operation touches throttle and team group, but a full reset, which forgets both. -/
theorem ownCode_perform_cases (hSpares : e.instruments.Spares Situation.team)
    {operation : Operation} (hSample : operation.sample? = none)
    (hKept : e.recalls operation = false) :
    let after := (e.perform operation).1
    (operation = .resetFlight true ∧ after.tracker.ownCodeClock = .unset ∧
      after.situation.team = {}) ∨
    (after.tracker.ownCodeClock = e.tracker.ownCodeClock ∧
      after.situation.team = e.situation.team) := by
  cases operation with
  | tick => cases hSample
  | resetFlight full =>
      cases full with
      | true => exact .inl ⟨rfl, by simp [perform, Team.Tracker.resetThrottle],
          by simp [perform, hSpares.revise, Situation.initial]⟩
      | false => exact .inr ⟨by simp [perform], by simp [perform, hSpares.revise]; rfl⟩
  | idlePass exhaustive =>
      obtain ⟨warnings, memory, hIdle⟩ := e.openJournal.situation_idlePass exhaustive
      exact .inr ⟨by simp [perform], by simp [perform, hIdle, hSpares.revise]⟩
  | restoreFinish =>
      have hNone : e.finish = none := by simpa [recalls] using hKept
      exact .inr ⟨by simp [perform], by simp [perform, recalled, hNone]⟩
  | setWaypoints => exact .inr ⟨rfl, rfl⟩
  | startTask | enterZone | saveFinish | setSettings | drainEvents =>
      exact .inr ⟨by simp [perform, enterZone], by simp [perform, enterZone]⟩

/-- Throttle and own code go together at the time of the last sample. -/
def Throttled (e : Engine Memory) : Prop :=
  Team.Throttled e.tracker.ownCodeClock e.situation.team e.sample.clock

/-- A new engine has no own code and a silent throttle. -/
theorem throttled_powerUp {i : Instruments Memory} (hSpares : i.Spares Situation.team)
    (m : Memory) (settings : Settings) (cadence : Cadence) (waypoints : WaypointSource) :
    (powerUp i m settings cadence waypoints).Throttled := by
  unfold Throttled
  simpa [powerUp, Team.Tracker.resetThrottle, hSpares.revise, Situation.initial] using
    Team.throttled_unset 0

/-- In a steady run every operation keeps gate and throttle together: a tick by expiry and then by
the team computations. -/
theorem Throttled.perform (h : e.Throttled) (hSpares : e.instruments.Spares Situation.team)
    (hCoherent : e.Coherent) {operation : Operation} (hStep : e.SteadyStep operation) :
    (e.perform operation).1.Throttled := by
  unfold Throttled
  rw [sample_perform]
  cases hSample : operation.sample? with
  | some sample =>
      obtain ⟨force, rfl⟩ := exists_eq_tick hSample
      obtain ⟨id, hNamed⟩ := Option.ne_none_iff_exists'.mp (hStep.named sample force rfl)
      obtain ⟨hClock, hTeam⟩ := ownCode_tick hSpares hCoherent hNamed hStep.kept
      rw [hClock, hTeam]
      exact Team.Throttled.compute ⟨sample, e.settings⟩ _ (.expire h (hStep.clock sample rfl))
  | none =>
      rcases ownCode_perform_cases hSpares hSample hStep.kept with
        ⟨-, hClock, hTeam⟩ | ⟨hClock, hTeam⟩
      · rw [hClock, hTeam]
        exact Team.throttled_unset _
      · rw [hClock, hTeam]
        exact h

/-- Of the operations of a steady run only a full reset makes the throttle forget. -/
theorem spaced_perform (first : Stamp) (h : e.Throttled)
    (hSpaced : Team.Spaced e.tracker.ownCodeClock first e.cadence.teamCode)
    (hSpares : e.instruments.Spares Situation.team) (hCoherent : e.Coherent)
    {operation : Operation} (hStep : e.SteadyStep operation)
    (hReset : operation ≠ .resetFlight true) :
    Team.Spaced (e.perform operation).1.tracker.ownCodeClock first e.cadence.teamCode := by
  cases hSample : operation.sample? with
  | some sample =>
      obtain ⟨force, rfl⟩ := exists_eq_tick hSample
      obtain ⟨id, hNamed⟩ := Option.ne_none_iff_exists'.mp (hStep.named sample force rfl)
      rw [(ownCode_tick hSpares hCoherent hNamed hStep.kept).1]
      exact hSpaced.compute ⟨sample, e.settings⟩ _ (.expire h (hStep.clock sample rfl))
  | none =>
      rcases ownCode_perform_cases hSpares hSample hStep.kept with
        ⟨hFull, -, -⟩ | ⟨hClock, -⟩
      · exact absurd hFull hReset
      · rwa [hClock]

end

section

variable {start : Engine Memory} {past between : List Operation}

/-- Gate and throttle go together all through a steady run. -/
theorem Throttled.run (h : start.Throttled) (hSpares : start.instruments.Spares Situation.team)
    (hCoherent : start.Coherent) (hStart : start.sample.clock = 0) (hSteady : start.Steady past) :
    (start.run past).Throttled := by
  induction past using List.reverseRecOn with
  | nil => exact h
  | append_singleton past operation ih =>
      have hBefore := ih (hSteady.of_prefix (List.prefix_append ..))
      rw [run_concat]
      exact hBefore.perform (by simpa using hSpares) (hCoherent.run past) (hSteady.step hStart)

/-- From a stamp that is shown on, the throttle keeps its interval until a full reset. -/
theorem spaced_run (h : start.Throttled) (hSpares : start.instruments.Spares Situation.team)
    (hCoherent : start.Coherent) (hStart : start.sample.clock = 0)
    (hSteady : start.Steady (past ++ between)) {first : Stamp}
    (hFirst : (start.run past).situation.team.ownCodeAvailable.stamp = some first)
    (hReset : .resetFlight true ∉ between) :
    Team.Spaced (start.run (past ++ between)).tracker.ownCodeClock first
      start.cadence.teamCode := by
  -- The stamp is where the throttle stands at the beginning, and each firing adds an interval.
  induction between using List.reverseRecOn with
  | nil =>
      rw [List.append_nil] at hSteady ⊢
      have hThrottled := h.run hSpares hCoherent hStart hSteady
      exact ⟨first, (hThrottled.shown first hFirst).1, .inl rfl⟩
  | append_singleton between operation ih =>
      rw [← List.append_assoc] at hSteady ⊢
      have hBefore := hSteady.of_prefix (List.prefix_append ..)
      have hSpaced := ih hBefore fun hEarlier => hReset (List.mem_append_left _ hEarlier)
      have hLast : operation ≠ .resetFlight true := by
        rintro rfl
        exact hReset (by simp)
      rw [run_concat]
      have hStep := spaced_perform first (h.run hSpares hCoherent hStart hBefore)
        (by simpa using hSpaced) (by simpa using hSpares) (hCoherent.run (past ++ between))
        (hSteady.step hStart) hLast
      simpa using hStep

end

/-- The own code in a steady run, over instruments that do not write the team group and with a
throttle of at most thirty seconds, which is how long the gate stays open. After a tick with a
position and with its reference in the store there is an own code, and its stamp is that of the tick
or younger than the interval. Two different stamps are at least an interval apart, whatever comes
between them apart from a full reset. -/
theorem ownCode_run_follows_throttle (i : Instruments Memory) (m : Memory) (settings : Settings)
    (cadence : Cadence) (waypoints : WaypointSource) (operations : List Operation)
    (hSpares : i.Spares Situation.team) (hInterval : cadence.teamCode ≤ 30000)
    (hSteady : (powerUp i m settings cadence waypoints).Steady operations) :
    let start := powerUp i m settings cadence waypoints
    (∀ past sample force, past ++ [.tick sample force] <+: operations →
      let e := start.run past
      let shown := (e.perform (.tick sample force)).1.situation.team
      sample.location ≠ none →
      (∃ id, e.settings.team.reference = some id ∧ e.waypoints id ≠ none) →
        shown.ownCode ≠ none ∧ ∃ t, shown.ownCodeAvailable.stamp = some t ∧
          t ≤ sample.clock ∧ (t = sample.clock ∨ sample.clock - t < cadence.teamCode)) ∧
    (∀ past between, past ++ between <+: operations → .resetFlight true ∉ between →
      ∀ first second,
        (start.run past).situation.team.ownCodeAvailable.stamp = some first →
        (start.run (past ++ between)).situation.team.ownCodeAvailable.stamp = some second →
        first ≠ second → first + cadence.teamCode ≤ second) := by
  intro start
  have hInstruments : start.instruments.Spares Situation.team := by
    simpa [start, powerUp] using hSpares
  have hCoherent : start.Coherent := coherent_powerUp i m settings cadence waypoints
  have hStart : start.sample.clock = 0 := by simp [start, powerUp]
  have hCadence : start.cadence = cadence := by simp [start, powerUp]
  have hThrottled : start.Throttled := throttled_powerUp hSpares m settings cadence waypoints
  refine ⟨?_, ?_⟩
  · intro past sample force hPrefix e shown hLocation hStored
    obtain ⟨id, hNamed, hFound⟩ := hStored
    have hRun : start.Steady (past ++ [.tick sample force]) := hSteady.of_prefix hPrefix
    have hStep : e.SteadyStep (.tick sample force) := hRun.step hStart
    have hBefore : e.Throttled := hThrottled.run hInstruments hCoherent hStart
      (hRun.of_prefix (List.prefix_append ..))
    obtain ⟨-, hShown⟩ := ownCode_tick (e := e) (by simpa [e] using hInstruments)
      (hCoherent.run past) hNamed hStep.kept
    rw [show shown = _ from hShown]
    have hSame : e.cadence = cadence := by simp [e, hCadence]
    rw [← hSame] at hInterval ⊢
    exact Team.Throttled.ownCode_compute ⟨sample, e.settings⟩
      ((e.waypoints id).map Waypoint.location) (.expire hBefore (hStep.clock sample rfl))
      hInterval (by simpa using hFound) hLocation
  · intro past between hPrefix hReset first second hFirst hSecond hDiffer
    have hRun : start.Steady (past ++ between) := hSteady.of_prefix hPrefix
    obtain ⟨last, hLast, hSpaced⟩ :=
      spaced_run hThrottled hInstruments hCoherent hStart hRun hFirst hReset
    have hShown :=
      ((hThrottled.run hInstruments hCoherent hStart hRun).shown second hSecond).1
    obtain rfl : last = second := Option.some.inj (hLast.symm.trans hShown)
    rw [hCadence] at hSpaced
    exact hSpaced.resolve_left (Ne.symm hDiffer)

/-- A store that has every waypoint at one place. -/
def allAt (location : Geo.Point) : WaypointSource :=
  fun id => some (Waypoint.named id "home" location)

/-- What may lie between two own codes: a tick that is held back, a partial reset, a new store and a
tick without position. -/
def gap : List Operation :=
  [.tick { clock := 4000, location := some ⟨47.7, 11.5⟩ } false,
    .resetFlight false,
    .setWaypoints (allAt ⟨48.0, 11.25⟩),
    .tick { clock := 11000 } false]

/-- A flight with a gap between its two own codes, which are twelve seconds apart. -/
theorem ownCodes_around_gap_spaced :
    let cadence : Cadence := {}
    let start := powerUp Instruments.none () { team := { reference := some ⟨7⟩ } } cadence
      (allAt ⟨47.5, 11.25⟩)
    let first : Operation := .tick { location := some ⟨47.6, 11.5⟩ } false
    let second : Operation := .tick { clock := 12000, location := some ⟨47.8, 11.5⟩ } true
    let shown := ((start.run (first :: gap)).perform second).1.situation.team
    Instruments.none.Spares Situation.team ∧ cadence.teamCode ≤ 30000 ∧
    start.Steady (first :: (gap ++ [second])) ∧
    (start.perform first).1.situation.team.ownCodeAvailable.stamp = some 0 ∧
    shown.ownCodeAvailable.stamp = some 12000 ∧ shown.ownCode ≠ none ∧
    0 + cadence.teamCode ≤ 12000 := by
  intro cadence start first second shown
  have hSpares : Instruments.none.Spares Situation.team := fun _ _ _ _ => rfl
  have hNamed : ∀ past operation, past ++ [operation] <+: first :: (gap ++ [second]) →
      (start.run past).settings.team.reference = some ⟨7⟩ := by
    simp only [gap, List.cons_append, List.nil_append, forall_step_cons, not_step_nil,
      false_implies, implies_true]
    decide +kernel
  have hSteady : start.Steady (first :: (gap ++ [second])) := by
    refine ⟨by decide +kernel, fun past sample force hPrefix => ?_, ?_⟩
    · simp [hNamed past _ hPrefix]
    · simp only [gap, List.cons_append, List.nil_append, forall_step_cons, not_step_nil,
        false_implies, implies_true]
      decide +kernel
  obtain ⟨hCode, hSpaced⟩ := ownCode_run_follows_throttle Instruments.none ()
    { team := { reference := some ⟨7⟩ } } {} (allAt ⟨47.5, 11.25⟩) (first :: (gap ++ [second]))
    hSpares (by decide) hSteady
  have hShown := (hCode (first :: gap) _ _ (List.prefix_refl _) (by simp) ⟨⟨7⟩,
    by decide +kernel, Option.isSome_iff_ne_none.mp (by decide +kernel)⟩).1
  have hApart := hSpaced [first] (gap ++ [second]) (List.prefix_refl _)
    (by simp [gap, second]) 0 12000 (by decide +kernel) (by decide +kernel) (by decide)
  exact ⟨hSpares, by decide, hSteady, by decide +kernel, by decide +kernel,
    by simpa only [shown, start, cadence, second] using hShown, hApart⟩

end Engine

end Soaring

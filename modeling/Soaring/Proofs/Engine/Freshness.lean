import Soaring.Proofs.Engine.Operations
import Soaring.Proofs.Promises
import Soaring.Proofs.Situation.Expiry

/-!
Whether a valid gate is a fresh one. Expiry at the start of a tick makes all gates so, and whatever
the tick computes stamps gates with its own clock. A landing on a finished task then brings back the
snapshot with the gates that it was saved with, which are not expired again. That is the one way in
which a tick ends with a gate that is valid and too old.
-/
namespace Soaring

namespace Gate

/-- If the gate is valid, its stamp is not in the future and at most `maxAge` old. -/
def IsCurrent (g : Gate) (now maxAge : Stamp) : Prop :=
  ∀ t, g.stamp = some t → t ≤ now ∧ now - t ≤ maxAge

theorem isCurrent_closed (now maxAge : Stamp) : closed.IsCurrent now maxAge := by
  intro t h
  cases h

theorem isCurrent_updatedAt (now maxAge : Stamp) : (updatedAt now).IsCurrent now maxAge := by
  intro t h
  obtain rfl : now = t := Option.some.inj h
  exact ⟨Nat.le_refl now, by simp⟩

/-- Expiry leaves a gate that is fresh, or a closed one. -/
theorem isCurrent_expire (g : Gate) (now maxAge : Stamp) :
    (g.expire now maxAge).IsCurrent now maxAge := by
  unfold expire
  split
  · next hFresh =>
      intro t hStamp
      simpa only [isFresh, hStamp, Bool.and_eq_true, decide_eq_true_eq] using hFresh
  · exact isCurrent_closed now maxAge

/-- What a call of the same time does to a current gate leaves it current. -/
theorem IsCurrent.follows {g g' : Gate} {now maxAge : Stamp} {clock? : Option Stamp}
    (h : g.IsCurrent now maxAge) (hStep : g'.Follows g clock?)
    (hClock : ∀ clock, clock? = some clock → clock = now) : g'.IsCurrent now maxAge := by
  rcases hStep with hKept | hClosed | ⟨clock, hSome, hStamped⟩
  · rwa [hKept]
  · rw [hClosed]
    exact isCurrent_closed now maxAge
  · rw [hStamped, hClock clock hSome]
    exact isCurrent_updatedAt now maxAge

end Gate

/-- The estimate of the fuel carries the clock that it was made at, or it is the last one. -/
theorem Fuel.follows_update (f : Fuel) (plane : PlaneSettings) (now : Stamp) :
    (f.update plane now).available.Follows f.available (some now) := by
  unfold update
  split
  · exact .inr (.inr ⟨now, rfl, rfl⟩)
  · exact .inl rfl

/-- Finding the reference leaves the own code alone, or forgets it with all of the team. -/
theorem Team.ownCodeAvailable_resolve (r : Reference) (named : Option WaypointId)
    (source : WaypointSource) (team : TeamView) :
    (r.resolve named source team).team.ownCodeAvailable = team.ownCodeAvailable ∨
    (r.resolve named source team).team.ownCodeAvailable = .closed := by
  have hLookup : ∀ id, (r.lookup id source team).team.ownCodeAvailable = team.ownCodeAvailable := by
    intro id
    unfold Reference.lookup
    split <;> rfl
  cases named with
  | none =>
      cases r with
      | unset => exact .inl rfl
      | resolved | missing => exact .inr rfl
  | some id =>
      cases r with
      | unset | missing => exact .inl (hLookup id)
      | resolved known location =>
          by_cases hKnown : known = id
          · simp [Reference.resolve, hKnown]
          · simpa [Reference.resolve, hKnown] using .inl (hLookup id)

/-- The own code is stamped with the clock of the sample when it is renewed, and else its gate
stays. -/
theorem Team.follows_updateOwnCode (clock : PeriodClock) (interval : Nat) (sample : Sample)
    (reference : Geo.Point) (team : TeamView) :
    (updateOwnCode clock interval sample reference team).2.ownCodeAvailable.Follows
      team.ownCodeAvailable (some sample.clock) := by
  unfold updateOwnCode
  split
  · exact .inl rfl
  · split
    · exact .inl rfl
    · exact .inr (.inr ⟨sample.clock, rfl, rfl⟩)

/-- The own code carries the clock of the sample, or its gate is as before, or the team is
forgotten. -/
theorem Team.follows_track (t : Tracker) (interval : Nat) (feed : Feed) (source : WaypointSource)
    (team : TeamView) :
    (t.track interval feed source team).team.ownCodeAvailable.Follows team.ownCodeAvailable
      (some feed.sample.clock) := by
  have hResolve := ownCodeAvailable_resolve t.reference feed.settings.team.reference source team
  unfold Tracker.track
  dsimp only
  generalize t.reference.resolve feed.settings.team.reference source team = found at hResolve
  split
  · exact hResolve.imp_right .inl
  · next reference hFound =>
      have hCode := follows_updateOwnCode t.ownCodeClock interval feed.sample reference found.team
      rw [(updateMate_frame ..).2.2]
      rcases hResolve with hKept | hForgotten
      · rwa [hKept] at hCode
      · rw [hForgotten] at hCode
        rcases hCode with hSame | hRest
        · exact .inr (.inl hSame)
        · exact .inr hRest

namespace Engine

variable {Memory : Type}

/-- In a tick at the given time, over instruments that stamp honestly, the gate is current. -/
structure Timely (e : Engine Memory) (value : Gated) (now : Stamp) : Prop where
  honest : e.instruments.StampsHonestly
  clock : e.sample.clock = now
  current : (e.situation.gate value).IsCurrent now value.maxAge

/-- After expiry every gate is closed or current, so a tick starts out timely whatever came
before. -/
theorem timely_accept {e : Engine Memory} (hHonest : e.instruments.StampsHonestly)
    (sample : Sample) (value : Gated) : (e.accept sample).Timely value sample.clock := by
  refine ⟨hHonest, rfl, ?_⟩
  rw [situation_accept, Situation.gate_expire]
  exact Gate.isCurrent_expire _ _ _

namespace Timely

variable {e e' : Engine Memory} {value : Gated} {now : Stamp}

/-- A step that may only stamp the gate with the time of the tick. -/
theorem step (h : e.Timely value now) (hInstruments : e'.instruments = e.instruments)
    (hSample : e'.sample = e.sample) (clock? : Option Stamp)
    (hClock : ∀ clock, clock? = some clock → clock = now)
    (hGate : (e'.situation.gate value).Follows (e.situation.gate value) clock?) :
    e'.Timely value now :=
  ⟨hInstruments ▸ h.honest, hSample ▸ h.clock, h.current.follows hGate hClock⟩

/-- A call is handed the time of the tick, or none. -/
theorem revise (h : e.Timely value now) {r : Revision}
    (hClock : ∀ clock, r.clock? = some clock → clock = now) : (e.revise r).Timely value now :=
  h.step rfl rfl r.clock? hClock (h.honest r e.situation e.memory value)

theorem observe (h : e.Timely value now) (o : Observation) : (e.observe o).Timely value now :=
  ⟨h.honest, h.clock, h.current⟩

theorem finishEdge (h : e.Timely value now) (wasFinished : Bool) :
    (e.finishEdge wasFinished).Timely value now :=
  ⟨by simpa using h.honest, by simpa using h.clock, by simpa using h.current⟩

theorem updateBand (h : e.Timely value now) : e.updateBand.Timely value now :=
  ⟨h.honest, h.clock, by cases value <;> exact h.current⟩

theorem updateScale (h : e.Timely value now) : e.updateScale.Timely value now :=
  ⟨h.honest, h.clock, by cases value <;> exact h.current⟩

theorem updateTrace (h : e.Timely value now) : e.updateTrace.Timely value now := by
  refine ⟨by simpa using h.honest, by simpa using h.clock, ?_⟩
  rw [situation_updateTrace]
  cases value <;> exact h.current

/-- The team computations follow the gate of the own code. -/
theorem updateTeam (h : e.Timely value now) : e.updateTeam.Timely value now := by
  refine h.step rfl rfl (some e.sample.clock) ?_ ?_
  · intro clock hClock
    exact (Option.some.inj hClock).symm.trans h.clock
  · cases value with
    | ownCode => exact Team.follows_track ..
    | estimatedWind | wind | pressure | headWind | sun | autoMacCready | climb | airspaceWarnings
    | wave | fuel => exact .inl rfl

theorem updateFuel (h : e.Timely value now) : e.updateFuel.Timely value now := by
  refine h.step rfl rfl (some e.sample.clock) ?_ ?_
  · intro clock hClock
    exact (Option.some.inj hClock).symm.trans h.clock
  · cases value with
    | fuel => exact Fuel.follows_update ..
    | estimatedWind | wind | pressure | headWind | sun | autoMacCready | climb | airspaceWarnings
    | wave | ownCode => exact .inl rfl

end Timely

/-- Up to its flight phase a tick leaves no gate valid and too old: expiry has closed those that
were, and the rest of the tick stamps with the clock of its sample. -/
theorem timely_derive {e : Engine Memory} (hHonest : e.instruments.StampsHonestly)
    (sample : Sample) (force : Bool) (value : Gated) :
    (e.derive sample force).Timely value sample.clock := by
  have hTask : (e.afterTaskBasics sample force).Timely value sample.clock :=
    ((timely_accept hHonest sample value).revise (by simp)).revise (by simp)
  have hBefore : (e.beforeTeam sample force).Timely value sample.clock :=
    (((hTask.finishEdge _).updateBand.revise (by simp)).revise (by simp) |>.revise (by simp)
      |>.observe _).revise (by simp)
  rw [derive_eq]
  exact (hBefore.updateTeam.updateTrace.updateScale.observe _).updateFuel.revise (by simp)

/-- After a tick every gate that is valid is fresh, unless the tick lands on a finished task and the
gate of the snapshot that it brings back is not fresh itself. The engine may be in any state, so it
may have come there by any operations. -/
theorem gate_tick_isCurrent_iff (e : Engine Memory) (sample : Sample) (force : Bool)
    (value : Gated) (hHonest : e.instruments.StampsHonestly) :
    ((e.perform (.tick sample force)).1.situation.gate value).IsCurrent sample.clock value.maxAge ↔
      ∀ saved, e.openJournal.reinstated sample force = some saved →
        (saved.gate value).IsCurrent sample.clock value.maxAge := by
  have hDerived := timely_derive (e := e.openJournal) hHonest sample force value
  change (Situation.gate (e.openJournal.tick sample force).1.situation value).IsCurrent _ _ ↔ _
  rcases tick_cases e.openJournal sample force with
    ⟨hNone, hTick, -⟩ | ⟨saved, hSaved, hTick, -⟩ | ⟨hNone, hTick, -⟩
  · have hReset := hDerived.revise (r := .resetAirData false) (by simp)
    rw [hTick, hNone]
    simpa using hReset.current
  -- All gates are those of the snapshot: the flight group, which stays, has none.
  · have hGate : (e.openJournal.tick sample force).1.situation.gate value = saved.gate value := by
      rw [hTick]
      cases value <;> rfl
    rw [hGate, hSaved]
    simp
  · rw [hTick, hNone]
    simpa using hDerived.current

/-- A landing on a task that was finished before: the climb rate of the snapshot, which counts for
five seconds, is valid again after six. -/
theorem landing_reopens_stale_climb :
    let i := Instruments.timed 6000 0
    let e := (powerUp i () {} {} fun _ => none).run
      [.tick { clock := 0 } false, .tick { clock := 6000 } false]
    i.StampsHonestly ∧ (e.situation.gate .climb).isValid = true ∧
    ¬ (e.situation.gate .climb).IsCurrent 6000 Gated.climb.maxAge := by
  refine ⟨Instruments.timed_stampsHonestly 6000 0, rfl, ?_⟩
  intro h
  have hOld := (h 0 rfl).2
  exact absurd hOld (by decide)

/-- A landing that comes soon enough after the finish brings back a climb rate that still counts. -/
theorem gate_landing_isCurrent :
    let i := Instruments.timed 3000 0
    let e := (powerUp i () {} {} fun _ => none).run [.tick { clock := 0 } false]
    i.StampsHonestly ∧
    ((e.perform (.tick { clock := 3000 } false)).1.situation.gate .climb).IsCurrent 3000
      Gated.climb.maxAge := by
  have hStamp : (((powerUp (Instruments.timed 3000 0) () {} {} fun _ => none).run
      [.tick { clock := 0 } false]).openJournal.reinstated { clock := 3000 } false).map
        (fun s => (s.gate .climb).stamp) = some (some 0) := rfl
  refine ⟨Instruments.timed_stampsHonestly 3000 0, (gate_tick_isCurrent_iff _ { clock := 3000 }
    false .climb (Instruments.timed_stampsHonestly 3000 0)).mpr ?_⟩
  intro saved hSaved t hStamped
  rw [hSaved] at hStamp
  obtain rfl : 0 = t := Option.some.inj ((Option.some.inj hStamp).symm.trans hStamped)
  exact ⟨Nat.zero_le 3000, by decide⟩

end Engine

end Soaring

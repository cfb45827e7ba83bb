import Soaring.Proofs.Engine.Operations
import Soaring.Proofs.Promises

/-!
Resets one after the other. A reset, full or not, forgets a part of the situation that does not
depend on the situation, and the part that a full reset forgets holds that of any other one. So of
two resets nothing remains but that one of them was full.
-/
namespace Soaring

/-- The instruments forget a flight in their own memory only. A reset gives the situation back as it
is. -/
def Instruments.ResetsPrivately {Memory : Type} (i : Instruments Memory) : Prop :=
  ∀ full s m, (i.revise (.resetAirData full) s m).1 = s

namespace Engine

variable {Memory : Type} {e : Engine Memory}

/-- Over such instruments a reset does to the situation what it does to its groups. -/
theorem situation_resetFlight_of_private (h : e.instruments.ResetsPrivately) (full : Bool) :
    (e.perform (.resetFlight full)).1.situation = e.situation.reset full := by
  change (e.openJournal.resetFlight full).situation = _
  rw [situation_resetFlight]
  exact h full _ _

/-- The throttle of the own code goes on unless the reset is full. -/
theorem ownCodeClock_resetFlight (e : Engine Memory) (full : Bool) :
    (e.perform (.resetFlight full)).1.tracker.ownCodeClock =
      if full then .unset else e.tracker.ownCodeClock := by
  cases full <;> simp [perform, Team.Tracker.resetThrottle]

/-- What no reset touches, and what every reset drops. -/
theorem resetFlight_keeps (e : Engine Memory) (full : Bool) :
    let after := (e.perform (.resetFlight full)).1
    after.finish = none ∧ after.traceClock = .unset ∧ after.settings = e.settings ∧
    after.waypoints = e.waypoints ∧ after.tracker.reference = e.tracker.reference ∧
    after.sample = e.sample ∧ after.idleClock = e.idleClock ∧ after.events = e.events := by
  cases full <;> simp [perform, Team.Tracker.resetThrottle]

/-- Two resets are one, which is full if one of them was. A full reset leaves nothing of the
situation, another one leaves all groups but those of a flight, together with the throttle of the
own code. The snapshot and the trace clock go with every reset, and settings, waypoints, the cached
reference, the last sample, the idle clock and the waiting events with none. The engine may be in
any state. -/
theorem resetFlight_twice_eq_once (e : Engine Memory) (a b : Bool)
    (hPrivate : e.instruments.ResetsPrivately) :
    let twice := ((e.perform (.resetFlight a)).1.perform (.resetFlight b)).1
    let once := (e.perform (.resetFlight (a || b))).1
    let part := (e.perform (.resetFlight false)).1
    (twice.situation = once.situation ∧ twice.finish = once.finish ∧
      twice.traceClock = once.traceClock ∧
      twice.tracker.ownCodeClock = once.tracker.ownCodeClock) ∧
    (e.perform (.resetFlight true)).1.situation = {} ∧
    (part.situation = { e.situation with
        flight := {}
        climb := {}
        circling := {}
        wave := {}
        task := {}
        orderedTask := {}
        fuel := {}
        trace := .empty } ∧
      part.tracker.ownCodeClock = e.tracker.ownCodeClock) ∧
    ∀ full, let after := (e.perform (.resetFlight full)).1
      after.finish = none ∧ after.traceClock = .unset ∧ after.settings = e.settings ∧
      after.waypoints = e.waypoints ∧ after.tracker.reference = e.tracker.reference ∧
      after.sample = e.sample ∧ after.idleClock = e.idleClock ∧ after.events = e.events := by
  intro twice once part
  have hFirst : (e.perform (.resetFlight a)).1.instruments.ResetsPrivately := by
    simpa using hPrivate
  have hSituation : twice.situation = once.situation := by
    calc twice.situation
        = (e.situation.reset a).reset b := by
          rw [← situation_resetFlight_of_private hPrivate a]
          exact situation_resetFlight_of_private hFirst b
      _ = e.situation.reset (a || b) := e.situation.reset_reset a b
      _ = once.situation := (situation_resetFlight_of_private hPrivate (a || b)).symm
  have hThrottle : twice.tracker.ownCodeClock = once.tracker.ownCodeClock := by
    simp only [twice, once, ownCodeClock_resetFlight]
    cases a <;> cases b <;> rfl
  have hDropped : twice.finish = once.finish ∧ twice.traceClock = once.traceClock := by
    obtain ⟨hFinish, hClock, -⟩ := resetFlight_keeps (e.perform (.resetFlight a)).1 b
    obtain ⟨hFinish', hClock', -⟩ := resetFlight_keeps e (a || b)
    exact ⟨hFinish.trans hFinish'.symm, hClock.trans hClock'.symm⟩
  refine ⟨⟨hSituation, hDropped.1, hDropped.2, hThrottle⟩, ?_, ⟨?_, ?_⟩, resetFlight_keeps e⟩
  · exact (situation_resetFlight_of_private hPrivate true).trans e.situation.reset_true
  · exact (situation_resetFlight_of_private hPrivate false).trans e.situation.clearFlight_eq
  · exact ownCodeClock_resetFlight e false

/-- After a flight that finished its task and landed: of the two resets the second one is full, so
also the climb rate of the snapshot goes. -/
theorem landed_resetFlight_twice_eq_once :
    let e := (powerUp (Instruments.timed 3000 0) () {} {} fun _ => none).run
      [.tick { clock := 0, time := some 0 } false, .tick { clock := 3000, time := some 3000 } false]
    e.instruments.ResetsPrivately ∧ e.finish.isSome = true ∧
    (e.situation.gate .climb).isValid = true ∧
    (((e.perform (.resetFlight false)).1.perform (.resetFlight true)).1.situation =
      (e.perform (.resetFlight true)).1.situation) ∧
    (e.perform (.resetFlight true)).1.situation = {} := by
  intro e
  have hPrivate : e.instruments.ResetsPrivately := by
    intro full s m
    rfl
  obtain ⟨⟨hSame, -⟩, hEmpty, -⟩ := resetFlight_twice_eq_once e false true hPrivate
  exact ⟨hPrivate, rfl, rfl, hSame, hEmpty⟩

end Engine

end Soaring

import Soaring.Proofs.Engine.Operations
import Soaring.Proofs.Promises

/-!
Invariants of the situation. An engine holds two situations, the one that it shows and the snapshot
of the finish, and each may take the other's place. So a property that every writer of a situation
keeps, be it a call of the instruments or a step of the engine, holds of both after every run of
operations. A part that no call writes is at the end of a tick what the engine's own steps have made
of it, unless the snapshot has come back.
-/
namespace Soaring.Engine

variable {Memory : Type}

/-- Every writer of a situation keeps the property. What the engine writes without regard to the
rest of the situation is not limited; most properties do not speak of it. -/
structure Kept (i : Instruments Memory) (P : Situation → Prop) : Prop where
  initial : P .initial
  revise : ∀ r s m, P s → P (i.revise r s m).1
  /-- A sample sets the local time and closes gates. -/
  accept : ∀ (s : Situation) localTime now, P s → P ({ s with localTime := localTime }.expire now)
  band : ∀ (s : Situation) safetyHeight altitude stats, P s →
    P { s with workingBand := .compute s.terrain safetyHeight altitude stats } := by
      exact fun _ _ _ _ h => h
  team : ∀ (s : Situation) (t : Team.Tracker) interval feed source, P s →
    P { s with team := (t.track interval feed source s.team).team } := by
      exact fun _ _ _ _ _ h => h
  clearFlight : ∀ s : Situation, P s → P s.clearFlight := by exact fun _ h => h
  others : ∀ (s : Situation) flight circling varioScale fuel trace warnings, P s →
    P { s with
      flight := flight
      circling := circling
      varioScale := varioScale
      fuel := fuel
      trace := trace
      warnings := warnings } := by exact fun _ _ _ _ _ _ _ h => h

/-- The engine shows a situation with the property, over instruments that keep it. -/
structure Upholds (P : Situation → Prop) (e : Engine Memory) : Prop where
  kept : Kept e.instruments P
  holds : P e.situation

namespace Upholds

variable {e : Engine Memory} {P : Situation → Prop}

/-- A call keeps the property by assumption. Each step of the engine below keeps it by the field of
the assumption that speaks of its group. -/
theorem revise (h : e.Upholds P) (r : Revision) : (e.revise r).Upholds P :=
  ⟨h.kept, h.kept.revise r _ _ h.holds⟩

theorem observe (h : e.Upholds P) (o : Observation) : (e.observe o).Upholds P :=
  ⟨h.kept, h.holds⟩

theorem accept (h : e.Upholds P) (sample : Sample) : (e.accept sample).Upholds P :=
  ⟨h.kept, h.kept.accept _ _ _ h.holds⟩

theorem finishEdge (h : e.Upholds P) (wasFinished : Bool) : (e.finishEdge wasFinished).Upholds P :=
  ⟨by simpa using h.kept, by simpa using h.holds⟩

theorem updateBand (h : e.Upholds P) : e.updateBand.Upholds P :=
  ⟨h.kept, h.kept.band _ _ _ _ h.holds⟩

theorem updateTeam (h : e.Upholds P) : e.updateTeam.Upholds P :=
  ⟨h.kept, h.kept.team _ _ _ _ _ h.holds⟩

theorem updateTrace (h : e.Upholds P) : e.updateTrace.Upholds P := by
  refine ⟨by simpa using h.kept, ?_⟩
  rw [situation_updateTrace]
  exact h.kept.others e.situation _ _ _ _ _ _ h.holds

theorem updateScale (h : e.Upholds P) : e.updateScale.Upholds P :=
  ⟨h.kept, h.kept.others e.situation _ _ _ _ _ _ h.holds⟩

theorem updateFuel (h : e.Upholds P) : e.updateFuel.Upholds P :=
  ⟨h.kept, h.kept.others e.situation _ _ _ _ _ _ h.holds⟩

theorem afterTaskBasics (h : e.Upholds P) (sample : Sample) (force : Bool) :
    (e.afterTaskBasics sample force).Upholds P :=
  ((h.accept sample).revise _).revise _

theorem derive (h : e.Upholds P) (sample : Sample) (force : Bool) :
    (e.derive sample force).Upholds P := by
  have hBefore : (e.beforeTeam sample force).Upholds P :=
    (((((h.afterTaskBasics sample force).finishEdge _).updateBand.revise _).revise _).revise _
      |>.observe _).revise _
  rw [derive_eq]
  exact (hBefore.updateTeam.updateTrace.updateScale.observe _).updateFuel.revise _

end Upholds

/-- The situation that is shown has the property, and so has the snapshot. -/
structure Everywhere (P : Situation → Prop) (e : Engine Memory) : Prop extends Upholds P e where
  snapshot : ∀ saved, e.finish = some saved → P saved

section

variable {e : Engine Memory} {P : Situation → Prop}

/-- The snapshot has the property also with the present flight group put into it. -/
theorem Everywhere.recalled (h : e.Everywhere P) : P e.recalled := by
  unfold Engine.recalled
  split
  · next saved hSaved => exact h.kept.others saved _ _ _ _ _ _ (h.snapshot saved hSaved)
  · exact h.holds

/-- A tick may save what it shows or show what was saved, and both have the property. -/
theorem Everywhere.tick (h : e.Everywhere P) (sample : Sample) (force : Bool) :
    (e.tick sample force).1.Everywhere P := by
  have hDerived := h.derive sample force
  have hKept : Kept (e.tick sample force).1.instruments P := by simpa using h.kept
  have hSaved : ∀ saved, (e.derive sample force).finish = some saved → P saved := by
    intro saved hSome
    rw [finish_derive] at hSome
    split at hSome
    · exact Option.some.inj hSome ▸ (h.afterTaskBasics sample force).holds
    · exact h.snapshot saved hSome
  rcases tick_cases e sample force with
    ⟨-, hTick, hFinish⟩ | ⟨saved, -, hTick, hSome, hFinish⟩ | ⟨-, hTick, hFinish⟩
  -- A takeoff saves what it shows.
  · have hShown : P (e.tick sample force).1.situation := by
      rw [hTick]
      exact (hDerived.revise _).holds
    refine ⟨⟨hKept, hShown⟩, fun saved hSome => ?_⟩
    exact Option.some.inj (hFinish.symm.trans hSome) ▸ hShown
  · refine ⟨⟨hKept, ?_⟩, fun _ hSame => ?_⟩
    · rw [hTick]
      exact h.kept.others saved _ _ _ _ _ _ (hSaved saved hSome)
    · exact Option.some.inj (hFinish.symm.trans hSame) ▸ hSaved saved hSome
  · refine ⟨⟨hKept, ?_⟩, ?_⟩
    · rw [hTick]
      exact hDerived.holds
    · rw [hFinish]
      exact hSaved

/-- A full reset leaves the initial situation, another one clears groups of the present one. -/
theorem Everywhere.resetFlight (h : e.Everywhere P) (full : Bool) :
    (e.resetFlight full).Everywhere P := by
  refine ⟨⟨by simpa using h.kept, ?_⟩, ?_⟩
  · rw [situation_resetFlight]
    apply h.kept.revise
    cases full with
    | true =>
        rw [Situation.reset_true]
        exact h.kept.initial
    | false =>
        rw [Situation.reset_false]
        exact h.kept.clearFlight _ h.holds
  · simp

/-- Every operation keeps the property in both places. -/
theorem Everywhere.perform (h : e.Everywhere P) (operation : Operation) :
    (e.perform operation).1.Everywhere P := by
  have hOpen : e.openJournal.Everywhere P := ⟨⟨h.kept, h.holds⟩, h.snapshot⟩
  have hKept : Kept (e.perform operation).1.instruments P := by simpa using h.kept
  cases operation with
  | tick sample force => exact hOpen.tick sample force
  | resetFlight full => exact hOpen.resetFlight full
  | idlePass exhaustive =>
      obtain ⟨warnings, memory, hIdle⟩ := e.openJournal.situation_idlePass exhaustive
      refine ⟨⟨hKept, ?_⟩, by simpa [Engine.perform] using h.snapshot⟩
      change P (e.openJournal.idlePass exhaustive).situation
      rw [hIdle]
      exact h.kept.others _ _ _ _ _ _ _ (h.kept.revise _ _ memory h.holds)
  | saveFinish =>
      refine ⟨⟨hKept, h.holds⟩, fun saved hSaved => ?_⟩
      exact Option.some.inj hSaved ▸ h.holds
  | restoreFinish =>
      refine ⟨⟨hKept, ?_⟩, by simpa [Engine.perform] using h.snapshot⟩
      change P e.openJournal.restoreFinish.situation
      rw [restoreFinish_eq]
      exact hOpen.recalled
  | startTask =>
      refine ⟨⟨hKept, ?_⟩, by simpa [Engine.perform] using h.snapshot⟩
      change P e.openJournal.startTask.situation
      rw [situation_startTask]
      exact h.kept.others e.situation _ _ _ _ _ _ h.holds
  | enterZone | setSettings | setWaypoints | drainEvents =>
      exact ⟨⟨hKept, by simpa [Engine.perform, enterZone] using h.holds⟩,
        by simpa [Engine.perform, enterZone] using h.snapshot⟩

/-- The property holds in both places after every run of operations. -/
theorem Everywhere.run (h : e.Everywhere P) (operations : List Operation) :
    (e.run operations).Everywhere P := by
  induction operations generalizing e with
  | nil => exact h
  | cons operation rest ih => exact ih (h.perform operation)

end

/-- A new engine shows what the instruments make of the initial situation. -/
theorem Kept.powerUp {i : Instruments Memory} {P : Situation → Prop} (h : Kept i P) (m : Memory)
    (settings : Settings) (cadence : Cadence) (waypoints : WaypointSource) :
    (powerUp i m settings cadence waypoints).Everywhere P := by
  refine ⟨⟨by simpa [Engine.powerUp] using h, ?_⟩, by simp [Engine.powerUp]⟩
  simp only [Engine.powerUp, record_frame, situation_resetFlight, Situation.reset_true]
  exact h.revise _ _ _ h.initial

/-- The operation brings back a snapshot. -/
def recalls (e : Engine Memory) : Operation → Bool
  | .tick sample force => (e.openJournal.reinstated sample force).isSome
  | .restoreFinish => e.finish.isSome
  | .idlePass _ | .resetFlight _ | .startTask | .enterZone | .saveFinish | .setSettings _
  | .setWaypoints _ | .drainEvents _ => false

/-- At the end of a tick that brings no snapshot back, a part of the situation that the instruments
spare is what the computations of the tick have made of it. -/
theorem spared_tick {α : Type} {part : Situation → α} {e : Engine Memory}
    (hSpares : e.instruments.Spares part) {sample : Sample} {force : Bool}
    (hKept : e.recalls (.tick sample force) = false) :
    part (e.perform (.tick sample force)).1.situation =
      part (e.openJournal.derive sample force).situation := by
  have hNone : e.openJournal.reinstated sample force = none := by
    simpa [recalls] using hKept
  change part (e.openJournal.tick sample force).1.situation = _
  rcases tick_cases e.openJournal sample force with
    ⟨-, hTick, -⟩ | ⟨saved, hSaved, -, -⟩ | ⟨-, hTick, -⟩
  · rw [hTick, situation_revise]
    refine Instruments.Spares.revise ?_ _ _ _
    simpa using hSpares
  · cases hNone.symm.trans hSaved
  · rw [hTick]

end Soaring.Engine

import Soaring.Proofs.Engine.Invariants
import Soaring.Proofs.Numeric.FloatOrder

/-!
The working band on doubles of any kind. Its lower bound is kept finite, and both bounds are widened
by taking the larger of two doubles, which passes over a single NaN. So the bounds stay in order
whatever the statistics, the terrain and the settings say, infinities and NaN included. The band
that is shown is one that some tick has computed, or that of a flight that has not begun.
-/
namespace Soaring

open Soaring.Numeric

namespace WorkingBand

/-- The bounds are in order, which a NaN could not be. The upper one may be infinite. -/
structure Upright (b : WorkingBand) : Prop where
  lowFinite : b.low.isFinite = true
  highNumber : b.high.isNaN = false
  ordered : b.low ≤ b.high

theorem upright_default : ({} : WorkingBand).Upright :=
  ⟨by decide +kernel, by decide +kernel, float_le_refl (by decide +kernel)⟩

variable (terrain : Terrain) (safetyHeight : Float) (stats : Statistics)

/-- Statistics that are not finite count as zero. -/
theorem isFinite_statisticsLow : (statisticsLow stats).isFinite = true := by
  unfold statisticsLow
  split
  · assumption
  · decide +kernel

/-- The lower bound is finite: the statistics are made so, and the safety height over terrain counts
only if it is. -/
theorem isFinite_lowBound : (lowBound terrain safetyHeight stats).isFinite = true := by
  unfold lowBound
  dsimp only
  split
  -- The sum with the safety height is let in only if it is finite.
  · next hFloor =>
      exact isFinite_larger (isFinite_statisticsLow stats) (Bool.and_eq_true_iff.mp hFloor).2
  · exact isFinite_statisticsLow stats

theorem isNaN_lowBound : (lowBound terrain safetyHeight stats).isNaN = false :=
  isNaN_of_isFinite (isFinite_lowBound terrain safetyHeight stats)

theorem low_compute (altitude : Option Float) :
    (compute terrain safetyHeight altitude stats).low = lowBound terrain safetyHeight stats := by
  cases altitude <;> rfl

/-- The band is computed as its lower bound and something above it. -/
theorem upright_compute (altitude : Option Float) :
    (compute terrain safetyHeight altitude stats).Upright := by
  have hLow := isNaN_lowBound terrain safetyHeight stats
  have hHigh := isNaN_larger hLow stats.maxWorkingHeight
  have hOrdered := le_larger_left hLow stats.maxWorkingHeight
  cases altitude with
  | none => exact ⟨isFinite_lowBound terrain safetyHeight stats, hHigh, hOrdered⟩
  | some altitude =>
      exact ⟨isFinite_lowBound terrain safetyHeight stats, isNaN_larger hHigh altitude,
        float_le_trans hOrdered (le_larger_left hHigh altitude)⟩

/-- A finite altitude lies below the top of its own band. -/
theorem le_high_compute {altitude : Float} (hFinite : altitude.isFinite = true) :
    altitude ≤ (compute terrain safetyHeight (some altitude) stats).high := by
  apply le_larger_right
  · exact isNaN_larger (isNaN_lowBound terrain safetyHeight stats) _
  · exact isNaN_of_isFinite hFinite

variable {terrain safetyHeight}

/-- The band does not reach below the safety height over known terrain. -/
theorem floor_le_low_compute (hValid : terrain.baseValid = true)
    (hFinite : (terrain.base + safetyHeight).isFinite = true) (altitude : Option Float) :
    terrain.base + safetyHeight ≤ (compute terrain safetyHeight altitude stats).low := by
  have hBase : terrain.baseOrAltitude = terrain.base := by simp [Terrain.baseOrAltitude, hValid]
  have hLow : lowBound terrain safetyHeight stats =
      larger (statisticsLow stats) (terrain.base + safetyHeight) := by
    simp [lowBound, hBase, hValid, hFinite]
  rw [low_compute, hLow]
  apply le_larger_right
  · exact isNaN_of_isFinite (isFinite_statisticsLow stats)
  · exact isNaN_of_isFinite hFinite

end WorkingBand

namespace Engine

variable {Memory : Type}

/-- The band is written by the engine alone, and always upright. -/
theorem kept_upright {i : Instruments Memory} (hSpares : i.Spares Situation.workingBand) :
    Kept i fun s => s.workingBand.Upright where
  initial := WorkingBand.upright_default
  revise := by
    intro r s m h
    rwa [hSpares.revise]
  accept := by
    intro s localTime now h
    simpa using h
  band := fun s safetyHeight altitude stats _ =>
    WorkingBand.upright_compute s.terrain safetyHeight stats altitude

/-- A tick that brings no snapshot back shows the band of its sample, over the terrain that the
basic task call has left. -/
theorem workingBand_tick {e : Engine Memory} (hSpares : e.instruments.Spares Situation.workingBand)
    {sample : Sample} {force : Bool} (hKept : e.recalls (.tick sample force) = false) :
    ∃ stats, (e.perform (.tick sample force)).1.situation.workingBand =
      .compute (e.openJournal.afterTaskBasics sample force).situation.terrain
        e.settings.task.safetyHeight sample.usableAltitude stats := by
  refine ⟨((e.openJournal.afterTaskBasics sample force).finishEdge
    (e.openJournal.afterAirBasics sample).situation.orderedTask.finished).statistics, ?_⟩
  rw [spared_tick hSpares hKept]
  simp [derive_eq, beforeTeam, hSpares.revise]

/-- The working band is never inverted. Over instruments that do not write it, after every run of
operations, its lower bound is finite and its upper bound is a number and not below. And a tick that
brings no snapshot back shows a band that reaches up to the altitude of its sample, if that is
finite, and not below the safety height over the terrain base, if that was known when the band was
computed and the sum is finite. -/
theorem workingBand_run_upright (i : Instruments Memory) (m : Memory) (settings : Settings)
    (cadence : Cadence) (waypoints : WaypointSource) (past : List Operation)
    (hSpares : i.Spares Situation.workingBand) :
    let e := (powerUp i m settings cadence waypoints).run past
    e.situation.workingBand.Upright ∧
    ∀ sample force, e.recalls (.tick sample force) = false →
      let band := (e.perform (.tick sample force)).1.situation.workingBand
      let terrain := (e.openJournal.afterTaskBasics sample force).situation.terrain
      let floor := terrain.base + e.settings.task.safetyHeight
      (∀ altitude, sample.altitude = some altitude → altitude.isFinite = true →
        altitude ≤ band.high) ∧
      (terrain.baseValid = true → floor.isFinite = true → floor ≤ band.low) := by
  intro e
  refine ⟨(((kept_upright hSpares).powerUp m settings cadence waypoints).run past).holds, ?_⟩
  intro sample force hKept band terrain floor
  have hInstruments : e.instruments.Spares Situation.workingBand := by
    simpa [e, powerUp] using hSpares
  obtain ⟨stats, hBand⟩ := workingBand_tick hInstruments hKept
  refine ⟨fun altitude hAltitude hFinite => ?_, fun hValid hFinite => ?_⟩
  · have hUsable : sample.usableAltitude = some altitude := by
      simp [Sample.usableAltitude, hAltitude, hFinite]
    rw [show band = _ from hBand, hUsable]
    exact WorkingBand.le_high_compute _ _ stats hFinite
  · rw [show band = _ from hBand]
    exact WorkingBand.floor_le_low_compute stats hValid hFinite _

/-- Instruments that know the terrain, and whose statistics are broken. -/
def overTerrain : Instruments Unit :=
  { Instruments.none with
    revise := fun r s m => match r with
      | .taskBasics _ _ => ({ s with terrain := { baseValid := true, base := 400.0 } }, m)
      | _ => (s, m)
    statistics := fun _ => { minWorkingHeight := -1.0 / 0.0, maxWorkingHeight := nan } }

theorem overTerrain_spares_workingBand : overTerrain.Spares Situation.workingBand := by
  intro r s m _
  cases r <;> rfl

/-- A flight of which the statistics say nothing, with an altitude that is known once. -/
theorem overTerrain_workingBand_upright :
    let e := (powerUp overTerrain () {} {} fun _ => none).run
      [.tick { altitude := some nan } false, .saveFinish]
    let sample : Sample := { clock := 1000, altitude := some 1500.0 }
    let band := (e.perform (.tick sample false)).1.situation.workingBand
    overTerrain.Spares Situation.workingBand ∧ e.recalls (.tick sample false) = false ∧
    e.situation.workingBand.Upright ∧ 1500.0 ≤ band.high ∧ 400.0 + 300.0 ≤ band.low := by
  intro e sample band
  have hSpares := overTerrain_spares_workingBand
  have hKept : e.recalls (.tick sample false) = false := by decide +kernel
  obtain ⟨hUpright, hTick⟩ := workingBand_run_upright overTerrain () {} {} (fun _ => none)
    [.tick { altitude := some nan } false, .saveFinish] hSpares
  obtain ⟨hHigh, hLow⟩ := hTick sample false hKept
  have hTerrain : (e.openJournal.afterTaskBasics sample false).situation.terrain =
      { baseValid := true, base := 400.0 } := rfl
  have hSafety : e.settings.task.safetyHeight = 300.0 := rfl
  rw [hTerrain, hSafety] at hLow
  have hAltitude := hHigh 1500.0 rfl (by decide +kernel)
  have hFloor := hLow rfl (by decide +kernel)
  -- Unfolded by name: to compare the two runs as terms is too much for the unifier.
  exact ⟨hSpares, hKept, hUpright, by simpa only [band, e, sample] using hAltitude,
    by simpa only [band, e, sample] using hFloor⟩

end Engine

end Soaring

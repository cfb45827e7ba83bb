import Soaring.Proofs.Engine.Bare

/-!
Team configuration, waypoints and idle passes do not reach the rest of the engine. Two engines that
are led alike up to these are the same machine without a team, so they agree on everything that it
shows, however different their teams, stores, idle passes and airspace warnings are.
-/
namespace Soaring

def Settings.after (inForce : Settings) : Operation → Settings
  | .setSettings settings => match settings.validate with
      | .ok () => settings
      | .error _ => inForce
  | _ => inForce

/-- The operation is none but the team's business: an idle pass, another store of waypoints, events
that are taken, a zone that only the recorder is told of, or settings that differ from those in
force in nothing but the team. -/
def Operation.Private (inForce : Settings) : Operation → Prop
  | .idlePass _ | .enterZone | .setWaypoints _ | .drainEvents _ => True
  | .setSettings settings => settings.common = inForce.common
  | _ => False

/-- Two runs, from the given settings, that are the same but for team settings and private
operations, of which each run may have its own at any time. -/
inductive Parallel (s t : Settings) : List Operation → List Operation → Prop where
  | start : Parallel s t [] []
  | both {past past' : List Operation} {operation operation' : Operation} :
      Parallel s t past past' → operation.common = operation'.common →
      Parallel s t (past ++ [operation]) (past' ++ [operation'])
  | left {past past' : List Operation} {operation : Operation} :
      Parallel s t past past' → operation.Private (past.foldl Settings.after s) →
      Parallel s t (past ++ [operation]) past'
  | right {past past' : List Operation} {operation : Operation} :
      Parallel s t past past' → operation.Private (past'.foldl Settings.after t) →
      Parallel s t past (past' ++ [operation])

/-- To what is left without a team, a private operation is nothing at all. -/
theorem Bare.perform_of_private {p : Bare} {inForce : Settings} {operation : Operation}
    (h : operation.Private inForce) (hSettings : p.settings = inForce.common) :
    (p.perform operation).1 = p := by
  cases operation with
  | setSettings settings =>
      have hSame : settings.common = p.settings := h.trans hSettings.symm
      unfold perform setSettings
      dsimp only
      rw [hSame]
      cases settings.validate <;> rfl
  | idlePass | enterZone | setWaypoints | drainEvents => rfl
  | tick | resetFlight | startTask | saveFinish | restoreFinish => exact h.elim

namespace Engine

variable {Memory Memory' : Type}

/-- The settings in force follow from the operations alone, and not from the flight. -/
theorem settings_perform (e : Engine Memory) (operation : Operation) :
    (e.perform operation).1.settings = e.settings.after operation := by
  cases operation with
  | setSettings settings =>
      unfold perform setSettings Settings.after
      dsimp only
      cases settings.validate <;> rfl
  | tick | idlePass | resetFlight | startTask | enterZone | saveFinish | restoreFinish
  | setWaypoints | drainEvents =>
      simp [perform, enterZone, Settings.after, setWaypoints, drainEvents]

theorem settings_run (e : Engine Memory) (operations : List Operation) :
    (e.run operations).settings = operations.foldl Settings.after e.settings := by
  induction operations generalizing e with
  | nil => rfl
  | cons operation rest ih =>
      have hRest := ih (e.perform operation).1
      rwa [settings_perform] at hRest

/-- Corresponding operations take two engines that agree to where they agree again. -/
theorem bare_perform_congr {a : Engine Memory} {b : Engine Memory'} (ha : a.instruments.OnlyWarns)
    (hb : b.instruments.OnlyWarns) (hBare : a.bare = b.bare) {operation operation' : Operation}
    (hCommon : operation.common = operation'.common) :
    ((a.perform operation).1.bare, (a.perform operation).2.idleDue?) =
      ((b.perform operation').1.bare, (b.perform operation').2.idleDue?) := by
  rw [bare_perform ha, bare_perform hb, ← Bare.perform_common, hCommon, Bare.perform_common, hBare]

/-- Private operations change nothing that engines have in common. -/
theorem bare_perform_of_private {e : Engine Memory} (h : e.instruments.OnlyWarns)
    {operation : Operation} (hPrivate : operation.Private e.settings) :
    (e.perform operation).1.bare = e.bare := by
  have hBare : (e.perform operation).1.bare = (e.bare.perform operation).1 :=
    congrArg Prod.fst (bare_perform h operation)
  rw [hBare, Bare.perform_of_private hPrivate rfl]

/-- Parallel runs lead what is left of both engines through the same states. -/
theorem bare_run {a : Engine Memory} {b : Engine Memory'} (ha : a.instruments.OnlyWarns)
    (hb : b.instruments.OnlyWarns) (hBare : a.bare = b.bare) {past past' : List Operation}
    (hPast : Parallel a.settings b.settings past past') :
    (a.run past).bare = (b.run past').bare := by
  have haRun : ∀ past, (a.run past).instruments.OnlyWarns := fun past => by simpa using ha
  have hbRun : ∀ past, (b.run past).instruments.OnlyWarns := fun past => by simpa using hb
  induction hPast with
  | start => exact hBare
  | both _ hCommon ih =>
      rw [run_concat, run_concat]
      exact congrArg Prod.fst (bare_perform_congr (haRun _) (hbRun _) ih hCommon)
  | left _ hPrivate ih =>
      rw [run_concat, bare_perform_of_private (haRun _) (by rwa [settings_run])]
      exact ih
  | right _ hPrivate ih =>
      rw [run_concat, bare_perform_of_private (hbRun _) (by rwa [settings_run])]
      exact ih

/-- Neither the team configuration nor idle passes leak. After corresponding operations of parallel
runs, two engines agree on the idle flag, on the events recorded, and on the situation and the
finish but for the team and the warnings. -/
theorem parallel_runs_agree {i : Instruments Memory} {j : Instruments Memory'} (m : Memory)
    (m' : Memory') (s t : Settings) (cadence : Cadence) (x y : WaypointSource)
    (past past' : List Operation) (operation operation' : Operation) (hi : i.OnlyWarns)
    (hj : j.OnlyWarns) (hSettings : s.common = t.common) (hPast : Parallel s t past past')
    (hOperation : operation.common = operation'.common) :
    let a := ((powerUp i m s cadence x).run past).perform operation
    let b := ((powerUp j m' t cadence y).run past').perform operation'
    a.2.idleDue? = b.2.idleDue? ∧ a.1.recorded = b.1.recorded ∧
      a.1.situation.common = b.1.situation.common ∧
      a.1.finish.map Situation.common = b.1.finish.map Situation.common := by
  have hStart : (powerUp i m s cadence x).bare = (powerUp j m' t cadence y).bare := by
    rw [bare_powerUp hi, bare_powerUp hj, hSettings]
  have hiRun : ((powerUp i m s cadence x).run past).instruments.OnlyWarns := by
    simpa [powerUp] using hi
  have hjRun : ((powerUp j m' t cadence y).run past').instruments.OnlyWarns := by
    simpa [powerUp] using hj
  have hRun : ((powerUp i m s cadence x).run past).bare =
      ((powerUp j m' t cadence y).run past').bare :=
    bare_run (by simpa [powerUp] using hi) (by simpa [powerUp] using hj) hStart
      (by simpa [powerUp] using hPast)
  have hStep := bare_perform_congr hiRun hjRun hRun hOperation
  have hRecords : operation.records = operation'.records := by
    rw [← Operation.records_common, hOperation, Operation.records_common]
  intro a b
  refine ⟨congrArg Prod.snd hStep, ?_, congrArg (·.1.situation) hStep, congrArg (·.1.finish) hStep⟩
  rw [recorded_perform_of_onlyWarns hiRun, recorded_perform_of_onlyWarns hjRun, hRecords]

/-- One engine flies alone. The other one has a team, finds its reference late, is given time for
idle passes and counts them as airspaces. -/
theorem soloAndTeam_agree :
    let count : Feed → Bool → Situation → UInt16 → AirspaceWarnings × UInt16 :=
      fun feed _ _ seen => (⟨seen + 1, 0, .updatedAt feed.sample.clock⟩, seen + 1)
    let i := Instruments.none
    let j := Instruments.warner count fun _ => 0
    let s : Settings := {}
    let t : Settings := { team := { reference := some ⟨7⟩ } }
    let home : WaypointSource := fun id => some (Waypoint.named id "home" ⟨47.5, 11.25⟩)
    let past : List Operation := [.tick { clock := 100, time := some 5 } false]
    let past' : List Operation := [.idlePass true, .tick { clock := 100, time := some 5 } false,
      .setWaypoints home, .idlePass false, .setSettings t]
    let last : Operation := .tick { clock := 900, time := some 805, altitude := some 640.0 } false
    i.OnlyWarns ∧ j.OnlyWarns ∧ s.common = t.common ∧ Parallel s t past past' ∧
    let a := ((powerUp i () s {} fun _ => none).run past).perform last
    let b := ((powerUp j 0 t {} fun _ => none).run past').perform last
    a.2.idleDue? = b.2.idleDue? ∧ a.1.recorded = b.1.recorded ∧
      a.1.situation.common = b.1.situation.common ∧
      a.1.finish.map Situation.common = b.1.finish.map Situation.common := by
  intro count i j s t home past past' last
  have hIdle : ∀ inForce exhaustive, Operation.Private inForce (.idlePass exhaustive) :=
    fun _ _ => trivial
  have hStore : ∀ inForce, Operation.Private inForce (.setWaypoints home) := fun _ => trivial
  have hTeam : Operation.Private t (.setSettings t) := rfl
  have hFlown : Parallel s t past (past'.take 2) := .both (.right .start (hIdle _ true)) rfl
  have hPast : Parallel s t past past' :=
    .right (.right (.right hFlown (hStore _)) (hIdle _ false)) hTeam
  have hi : i.OnlyWarns := Instruments.none_onlyWarns
  have hj : j.OnlyWarns := Instruments.warner_onlyWarns count fun _ => 0
  exact ⟨hi, hj, rfl, hPast,
    parallel_runs_agree () 0 s t {} _ _ past past' last last hi hj rfl hPast rfl⟩

end Engine

end Soaring

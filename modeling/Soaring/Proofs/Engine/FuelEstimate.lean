import Mathlib.Data.List.Induction
import Soaring.Proofs.Engine.Invariants
import Soaring.Proofs.Situation.Expiry

/-!
The fuel estimate that is shown. A tick that cannot compute one leaves the last one in its place,
and only the gate tells whether it still counts. The gate is looked at on every tick, with clocks
that may go either way, and a gate once closed is opened by a new estimate alone. So an estimate is
shown for as long as every tick since it was made has found it fresh.
-/
namespace Soaring

namespace Fuel

/-- The fuel on board of the plane lasts for the given time. The plane burns fuel at a rate that is
neither negative nor negligible, and the time is one that a duration can hold. -/
structure Lasts (plane : PlaneSettings) (time : Duration) : Prop where
  notNegative : ¬ plane.fuelConsumption < 0
  notNegligible : ¬ plane.fuelConsumption.abs ≤ leastConsumption
  held : Duration.ofSeconds? (plane.fuelOnboard / plane.fuelConsumption * 3600) = some time

/-- The estimate by its meaning: how long the fuel on board lasts. -/
theorem estimate?_eq_some_iff {plane : PlaneSettings} {time : Duration} :
    estimate? plane = some time ↔ Lasts plane time := by
  unfold estimate?
  dsimp only
  split
  · next hNone =>
      refine ⟨fun h => (nomatch h), fun h => ?_⟩
      simp only [Bool.or_eq_true, decide_eq_true_eq] at hNone
      exact absurd hNone (not_or.mpr ⟨h.notNegative, h.notNegligible⟩)
  · next hBurns =>
      simp only [Bool.or_eq_true, decide_eq_true_eq, not_or] at hBurns
      exact ⟨fun h => ⟨hBurns.1, hBurns.2, h⟩, fun h => h.held⟩

/-- There is no estimate exactly if there is no time that the fuel lasts. -/
theorem estimate?_eq_none_iff {plane : PlaneSettings} :
    estimate? plane = none ↔ ∀ time, ¬ Lasts plane time := by
  simp only [← estimate?_eq_some_iff, Option.eq_none_iff_forall_ne_some, ne_eq]

/-- An engine that uses nothing gives no estimate. -/
theorem not_lasts_of_idle {plane : PlaneSettings}
    (h : plane.fuelConsumption.abs ≤ leastConsumption) (time : Duration) : ¬ Lasts plane time :=
  fun hLasts => hLasts.notNegligible h

/-- A tick as far as the fuel estimate depends on it: the plane as it is set, and the time. -/
structure Reading where
  plane : PlaneSettings
  now : Stamp

def after (f : Fuel) (r : Reading) : Fuel :=
  { f with available := f.available.expire r.now Gated.fuel.maxAge }.update r.plane r.now

/-- The latest reading that an estimate can be made from was taken at the given time and gives the
given burn time, and no reading since was taken before it or more than ten seconds after it. -/
def Stands (readings : List Reading) (time : Duration) (made : Stamp) : Prop :=
  ∃ earlier latest later, readings = earlier ++ latest :: later ∧
    Lasts latest.plane time ∧ latest.now = made ∧
    ∀ r ∈ later, (∀ other, ¬ Lasts r.plane other) ∧ made ≤ r.now ∧ r.now ≤ made + 10000

theorem not_stands_nil (time : Duration) (made : Stamp) : ¬ Stands [] time made := by
  rintro ⟨earlier, latest, later, hSplit, -⟩
  simp at hSplit

/-- The law of one more reading. -/
theorem stands_concat_iff {readings : List Reading} {r : Reading} {time : Duration}
    {made : Stamp} :
    Stands (readings ++ [r]) time made ↔
      (Lasts r.plane time ∧ r.now = made) ∨
      (Stands readings time made ∧ (∀ other, ¬ Lasts r.plane other) ∧
        made ≤ r.now ∧ r.now ≤ made + 10000) := by
  constructor
  · rintro ⟨earlier, latest, later, hSplit, hLasts, hMade, hLater⟩
    rcases List.eq_nil_or_concat later with rfl | ⟨later, last, rfl⟩
    · obtain ⟨rfl, rfl⟩ := List.append_singleton_inj.mp hSplit
      exact .inl ⟨hLasts, hMade⟩
    · rw [List.concat_eq_append, ← List.cons_append, ← List.append_assoc] at hSplit
      obtain ⟨rfl, rfl⟩ := List.append_singleton_inj.mp hSplit
      refine .inr ⟨⟨earlier, latest, later, rfl, hLasts, hMade, ?_⟩, hLater r (by simp)⟩
      exact fun other hOther => hLater other (by simp [hOther])
  · rintro (⟨hLasts, hMade⟩ | ⟨⟨earlier, latest, later, rfl, hLasts, hMade, hLater⟩, hLast⟩)
    · exact ⟨readings, r, [], rfl, hLasts, hMade, by simp⟩
    · refine ⟨earlier, latest, later ++ [r], by simp, hLasts, hMade, ?_⟩
      intro other hOther
      rcases List.mem_append.mp hOther with hOld | hNew
      · exact hLater other hOld
      · rwa [List.mem_singleton.mp hNew]

/-- Readings that no estimate can be made from do not bring back one that has gone. -/
theorem Stands.of_append {readings more : List Reading} {time : Duration} {made : Stamp}
    (h : Stands (readings ++ more) time made) (hMore : ∀ r ∈ more, ∀ other, ¬ Lasts r.plane other) :
    Stands readings time made := by
  induction more using List.reverseRecOn with
  | nil => rwa [List.append_nil] at h
  | append_singleton more r ih =>
      rw [← List.append_assoc, stands_concat_iff] at h
      rcases h with ⟨hLasts, -⟩ | ⟨hBefore, -⟩
      · exact absurd hLasts (hMore r (by simp) time)
      · exact ih hBefore fun other hOther => hMore other (List.mem_append_left _ hOther)

/-- Expiry keeps a stamp that is not in the future and at most ten seconds old. -/
theorem stamp_expire_iff {f : Fuel} {now made : Stamp} :
    (f.available.expire now Gated.fuel.maxAge).stamp = some made ↔
      f.available.stamp = some made ∧ made ≤ now ∧ now ≤ made + 10000 := by
  rw [Gate.stamp_expire, Option.filter_eq_some_iff]
  simp only [Gated.maxAge, msPerSecond, Bool.and_eq_true, decide_eq_true_eq,
    Nat.sub_le_iff_le_add']

/-- After a tick the group shows the estimate of that tick, or the one that it has shown before. -/
theorem shown_after_iff {f : Fuel} {r : Reading} {time : Duration} {made : Stamp} :
    ((f.after r).available.stamp = some made ∧ (f.after r).burnTime = time) ↔
      (Lasts r.plane time ∧ r.now = made) ∨
      ((f.available.stamp = some made ∧ f.burnTime = time) ∧ (∀ other, ¬ Lasts r.plane other) ∧
        made ≤ r.now ∧ r.now ≤ made + 10000) := by
  unfold after update
  split
  · next burnTime hMade =>
      have hLasts := estimate?_eq_some_iff.mp hMade
      have hOnly : Lasts r.plane time ↔ burnTime = time := by
        rw [← estimate?_eq_some_iff, hMade, Option.some.injEq]
      have hNot : ¬ ∀ other, ¬ Lasts r.plane other := fun h => h burnTime hLasts
      simp [Gate.updatedAt, hOnly, hNot, and_comm]
  · next hNone =>
      have hNot := estimate?_eq_none_iff.mp hNone
      dsimp only
      rw [stamp_expire_iff]
      simp only [hNot, not_false_eq_true, implies_true, true_and, false_and, false_or]
      tauto

/-- The group after some ticks that start without an estimate. -/
theorem shown_foldl_iff (readings : List Reading) {time : Duration} {made : Stamp} :
    ((readings.foldl after {}).available.stamp = some made ∧
      (readings.foldl after {}).burnTime = time) ↔ Stands readings time made := by
  induction readings using List.reverseRecOn generalizing time made with
  | nil => simp [Gate.closed, not_stands_nil]
  | append_singleton readings r ih =>
      rw [List.foldl_append, List.foldl_cons, List.foldl_nil, shown_after_iff, stands_concat_iff]
      exact or_congr_right (and_congr_left' ih)

/-- What is shown is the burn time behind an open gate. -/
theorem remaining_eq_some_iff {f : Fuel} {time : Duration} :
    f.remaining = some time ↔ ∃ made, f.available.stamp = some made ∧ f.burnTime = time := by
  unfold remaining Gate.isValid
  cases f.available.stamp <;> simp

end Fuel

namespace Engine

variable {Memory : Type}

/-- What the ticks of a run have read for the fuel estimate, in order. -/
def fuelReadings (e : Engine Memory) : List Operation → List Fuel.Reading
  | [] => []
  | operation :: rest =>
    let readings := (e.perform operation).1.fuelReadings rest
    match operation with
    | .tick sample _ => ⟨e.settings.plane, sample.clock⟩ :: readings
    | _ => readings

theorem fuelReadings_append (e : Engine Memory) (past operations : List Operation) :
    e.fuelReadings (past ++ operations) =
      e.fuelReadings past ++ (e.run past).fuelReadings operations := by
  induction past generalizing e with
  | nil => rfl
  | cons operation past ih =>
      have hRest := ih (e.perform operation).1
      change e.fuelReadings (operation :: (past ++ operations)) =
        _ ++ ((e.perform operation).1.run past).fuelReadings operations
      cases operation <;> simp only [fuelReadings, hRest, List.cons_append]

section

variable {e : Engine Memory}

/-- The fuel group after a tick that brings no snapshot back. -/
theorem fuel_tick (hSpares : e.instruments.Spares Situation.fuel) {sample : Sample} {force : Bool}
    (hKept : e.recalls (.tick sample force) = false) :
    (e.perform (.tick sample force)).1.situation.fuel =
      e.situation.fuel.after ⟨e.settings.plane, sample.clock⟩ := by
  rw [spared_tick hSpares hKept]
  simp [derive_eq, beforeTeam, afterTaskBasics, afterAirBasics, hSpares.revise,
    Situation.fuel_expire_eq, Fuel.after]

/-- No other operation touches the fuel group, but a reset. -/
theorem fuel_perform (hSpares : e.instruments.Spares Situation.fuel) {operation : Operation}
    (hReset : ∀ full, operation ≠ .resetFlight full) (hKept : e.recalls operation = false) :
    (e.perform operation).1.situation.fuel =
      (e.fuelReadings [operation]).foldl Fuel.after e.situation.fuel := by
  cases operation with
  | tick sample force => exact fuel_tick hSpares hKept
  | resetFlight full => exact absurd rfl (hReset full)
  | idlePass exhaustive =>
      obtain ⟨warnings, memory, hIdle⟩ := e.openJournal.situation_idlePass exhaustive
      simp [perform, hIdle, hSpares.revise, fuelReadings]
  | restoreFinish =>
      have hNone : e.finish = none := by simpa [recalls] using hKept
      simp [perform, recalled, hNone, fuelReadings]
  | startTask | enterZone | saveFinish | setSettings | setWaypoints | drainEvents =>
      simp [perform, enterZone, fuelReadings]

end

/-- A run in which no reset is made and no snapshot comes back. -/
structure Onward (start : Engine Memory) (operations : List Operation) : Prop where
  unreset : ∀ full, .resetFlight full ∉ operations
  kept : ∀ past operation, past ++ [operation] <+: operations →
    (start.run past).recalls operation = false

theorem Onward.of_prefix {start : Engine Memory} {past operations : List Operation}
    (h : start.Onward operations) (hPast : past <+: operations) : start.Onward past := by
  refine ⟨fun full hMem => h.unreset full (hPast.subset hMem), ?_⟩
  intro earlier operation hStep
  exact h.kept earlier operation (hStep.trans hPast)

section

variable {start : Engine Memory} {operations : List Operation}

/-- The fuel group is what the ticks of a run make of it. -/
theorem fuel_run (hSpares : start.instruments.Spares Situation.fuel)
    (hOnward : start.Onward operations) :
    (start.run operations).situation.fuel =
      (start.fuelReadings operations).foldl Fuel.after start.situation.fuel := by
  induction operations using List.reverseRecOn with
  | nil => rfl
  | append_singleton past operation ih =>
      have hBefore := ih (hOnward.of_prefix (List.prefix_append ..))
      have hLast : ∀ full, operation ≠ .resetFlight full := by
        rintro full rfl
        exact hOnward.unreset full (by simp)
      rw [run_concat, fuel_perform (by simpa using hSpares) hLast
        (hOnward.kept past operation (List.prefix_refl _)), hBefore, fuelReadings_append,
        List.foldl_append]

/-- The group shows an estimate if it stands at the end of the readings. -/
theorem remaining_run_iff (hSpares : start.instruments.Spares Situation.fuel)
    (hOnward : start.Onward operations) (hStart : start.situation.fuel = {}) (time : Duration) :
    (start.run operations).situation.fuel.remaining = some time ↔
      ∃ made, Fuel.Stands (start.fuelReadings operations) time made := by
  rw [Fuel.remaining_eq_some_iff, fuel_run hSpares hOnward, hStart]
  exact exists_congr fun made => Fuel.shown_foldl_iff _

end

/-- The fuel estimate in a run without resets and without snapshots brought back, over instruments
that do not write the fuel group; settings may change at any time and clocks may go either way. A
time is shown if and only if it is the estimate of the latest tick that could make one, and every
tick since has come at its clock or within the ten seconds after it. So nothing is shown from the
first tick on that comes before or later, until an estimate can be made again. -/
theorem fuel_run_shown_iff (i : Instruments Memory) (m : Memory) (settings : Settings)
    (cadence : Cadence) (waypoints : WaypointSource) (operations : List Operation)
    (hSpares : i.Spares Situation.fuel)
    (hOnward : (powerUp i m settings cadence waypoints).Onward operations) :
    let start := powerUp i m settings cadence waypoints
    (∀ time, (start.run operations).situation.fuel.remaining = some time ↔
      ∃ made, Fuel.Stands (start.fuelReadings operations) time made) ∧
    (∀ past since, operations = past ++ since →
      (start.run past).situation.fuel.remaining = none →
      (∀ r ∈ (start.run past).fuelReadings since, ∀ time, ¬ Fuel.Lasts r.plane time) →
        (start.run operations).situation.fuel.remaining = none) := by
  intro start
  have hInstruments : start.instruments.Spares Situation.fuel := by
    simpa [start, powerUp] using hSpares
  have hStart : start.situation.fuel = {} := by
    simp [start, powerUp, hSpares.revise, Situation.initial]
  refine ⟨remaining_run_iff hInstruments hOnward hStart, ?_⟩
  rintro past since rfl hGone hNone
  rw [Option.eq_none_iff_forall_ne_some] at hGone ⊢
  intro time hShown
  obtain ⟨made, hStands⟩ := (remaining_run_iff hInstruments hOnward hStart time).mp hShown
  rw [fuelReadings_append] at hStands
  have hBefore := hOnward.of_prefix (List.prefix_append past since)
  exact hGone time ((remaining_run_iff hInstruments hBefore hStart time).mpr
    ⟨made, hStands.of_append hNone⟩)

/-- Ten litres at twenty an hour last for half an hour. -/
theorem halfHour_lasts : Fuel.Lasts ⟨10, 20⟩ ⟨1800 * nanosPerSecond, by decide⟩ :=
  ⟨by decide +kernel, by decide +kernel, by decide +kernel⟩

/-- When the engine was shut down its estimate is shown for ten seconds more. Then a tick comes too
late, and a later one whose clock is in the ten seconds again does not bring it back. -/
theorem shutDown_fuel_shown_iff :
    let start := powerUp Instruments.none () { plane := ⟨10, 20⟩ } {} fun _ => none
    let flown : List Operation := [.tick { clock := 4000 } false, .setSettings {},
      .tick { clock := 14000 } true]
    let late : List Operation := [.tick { clock := 14001 } false]
    let back : List Operation := [.idlePass true, .tick { clock := 9000 } false]
    Instruments.none.Spares Situation.fuel ∧ start.Onward (flown ++ (late ++ back)) ∧
    (start.run flown).situation.fuel.remaining = some ⟨1800 * nanosPerSecond, by decide⟩ ∧
    (start.run (flown ++ (late ++ back))).situation.fuel.remaining = none := by
  intro start flown late back
  have hSpares : Instruments.none.Spares Situation.fuel := fun _ _ _ _ => rfl
  have hOnward : start.Onward (flown ++ (late ++ back)) := by
    refine ⟨by simp [flown, late, back], ?_⟩
    simp only [flown, late, back, List.cons_append, List.nil_append, forall_step_cons,
      not_step_nil, false_implies, implies_true]
    decide +kernel
  have hReadings : start.fuelReadings flown = [⟨⟨10, 20⟩, 4000⟩, ⟨{}, 14000⟩] := rfl
  have hStands :
      Fuel.Stands (start.fuelReadings flown) ⟨1800 * nanosPerSecond, by decide⟩ 4000 := by
    refine ⟨[], _, _, hReadings, halfHour_lasts, rfl, fun r hLater => ?_⟩
    obtain rfl := List.mem_singleton.mp hLater
    exact ⟨Fuel.not_lasts_of_idle (by decide +kernel), by decide⟩
  obtain ⟨hShown, -⟩ := fuel_run_shown_iff Instruments.none () { plane := ⟨10, 20⟩ } {}
    (fun _ => none) flown hSpares (hOnward.of_prefix (List.prefix_append ..))
  obtain ⟨-, hGone⟩ := fuel_run_shown_iff Instruments.none () { plane := ⟨10, 20⟩ } {}
    (fun _ => none) (flown ++ (late ++ back)) hSpares hOnward
  have hHidden := hGone (flown ++ late) back (List.append_assoc ..).symm (by decide +kernel)
    fun r hRead => Fuel.not_lasts_of_idle (by revert r; decide +kernel)
  exact ⟨hSpares, hOnward, by simpa only [start] using (hShown _).mpr ⟨4000, hStands⟩,
    by simpa only [start] using hHidden⟩

end Engine

end Soaring

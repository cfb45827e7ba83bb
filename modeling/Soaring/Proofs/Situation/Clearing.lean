import Soaring.Situation.Basic

/-!
Clearing groups of a situation. What is left depends only on which groups were cleared, not on their
order or how often: each of them is as it was at the start, and every other one is as before. So
clearing all groups leaves the initial situation only because the list of all groups misses none.
-/
namespace Soaring

namespace Group

/-- No group is missing from the list, so a full reset clears each of them. -/
theorem mem_all (g : Group) : g ∈ all := by
  cases g <;> decide

def forgotten (full : Bool) : List Group := if full then all else ofFlight ++ statistics

/-- What a partial reset clears is cleared by a full one as well, so together two resets clear what
the fuller one does. -/
theorem mem_forgotten_or (a b : Bool) (g : Group) :
    g ∈ forgotten a ++ forgotten b ↔ g ∈ forgotten (a || b) := by
  have hAll : g ∈ forgotten true := g.mem_all
  cases a with
  | true => simp [hAll]
  | false =>
      cases b with
      | true => simp [hAll]
      | false => simp

end Group

namespace Situation

/-- A group that is cleared is as it was at the start. A group that is not stays as it is. -/
theorem clearAll_eq (s : Situation) (groups : List Group) :
    s.clearAll groups =
      { localTime := if .localTime ∈ groups then .invalid else s.localTime
        flight := if .flight ∈ groups then {} else s.flight
        climb := if .climb ∈ groups then {} else s.climb
        circling := if .circling ∈ groups then {} else s.circling
        wind := if .wind ∈ groups then {} else s.wind
        atmosphere := if .atmosphere ∈ groups then {} else s.atmosphere
        terrain := if .terrain ∈ groups then {} else s.terrain
        team := if .team ∈ groups then {} else s.team
        task := if .task ∈ groups then {} else s.task
        orderedTask := if .orderedTask ∈ groups then {} else s.orderedTask
        workingBand := if .workingBand ∈ groups then {} else s.workingBand
        varioScale := if .varioScale ∈ groups then {} else s.varioScale
        fuel := if .fuel ∈ groups then {} else s.fuel
        trace := if .trace ∈ groups then .empty else s.trace
        warnings := if .warnings ∈ groups then {} else s.warnings
        wave := if .wave ∈ groups then {} else s.wave } := by
  induction groups generalizing s with
  | nil => rfl
  | cons g rest ih =>
      change (s.clear g).clearAll rest = _
      rw [ih]
      cases g <;> simp [clear]

theorem clearAll_clearAll (s : Situation) (a b : List Group) :
    (s.clearAll a).clearAll b = s.clearAll (a ++ b) :=
  List.foldl_append.symm

/-- Order and repetition do not matter. -/
theorem clearAll_congr {a b : List Group} (h : ∀ g, g ∈ a ↔ g ∈ b) (s : Situation) :
    s.clearAll a = s.clearAll b := by
  simp only [clearAll_eq, h]

/-- After all groups have been cleared nothing is known. -/
theorem clearAll_all (s : Situation) : s.clearAll Group.all = .initial := by
  simp only [clearAll_eq, Group.mem_all, if_true]
  rfl

/-- What the groups of a flight are: those that describe the way of flying, and those that go with
one flight. All others are kept. -/
theorem clearFlight_eq (s : Situation) :
    s.clearFlight = { s with
      flight := {}
      climb := {}
      circling := {}
      wave := {}
      task := {}
      orderedTask := {}
      fuel := {}
      trace := .empty } := rfl

@[simp]
theorem reset_true (s : Situation) : s.reset true = .initial := s.clearAll_all

@[simp]
theorem reset_false (s : Situation) : s.reset false = s.clearFlight := rfl

theorem reset_eq_clearAll (s : Situation) (full : Bool) :
    s.reset full = s.clearAll (Group.forgotten full) := by
  cases full with
  | true => rfl
  | false => exact s.clearAll_clearAll Group.ofFlight Group.statistics

/-- After the first reset the second one finds either nothing to forget or just what it would have
forgotten without it. -/
theorem reset_reset (s : Situation) (a b : Bool) : (s.reset a).reset b = s.reset (a || b) := by
  rw [reset_eq_clearAll, reset_eq_clearAll, clearAll_clearAll, reset_eq_clearAll]
  exact clearAll_congr (Group.mem_forgotten_or a b) s

end Situation

end Soaring

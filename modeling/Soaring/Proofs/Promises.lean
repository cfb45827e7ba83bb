import Soaring.Journal

/-!
Promises of the instruments. The engine takes back whatever a call returns, so what it guarantees of
the situation rests on which parts the instruments write, and in which calls.
-/
namespace Soaring

/-- The call that decides whether the aircraft flies. -/
@[simp]
def Revision.isFlightPhase : Revision → Bool
  | .flightPhase _ => true
  | _ => false

/-- The call that decides whether the task is finished. -/
@[simp]
def Revision.isTaskBasics : Revision → Bool
  | .taskBasics _ _ => true
  | _ => false

/-- The clock of the sample that a call is handed. The reset of the air data is handed none. -/
@[simp]
def Revision.clock? : Revision → Option Stamp
  | .airBasics feed | .airVertical feed | .flightPhase feed | .taskBasics feed _
  | .taskMore feed _ | .taskAuto feed _ | .taskIdle feed _ | .cruise feed => some feed.sample.clock
  | .resetAirData _ => none

/-- A call with the given clock may keep a gate as it was, close it, or stamp it with that clock. -/
def Gate.Follows (after before : Gate) (clock? : Option Stamp) : Prop :=
  after = before ∨ after = .closed ∨ ∃ now, clock? = some now ∧ after = .updatedAt now

namespace Instruments

variable {Memory α : Type}

/-- Only calls of the given kind may write a part of the situation. Any other call hands that part
back as it was, whatever the memory of the instruments. -/
def Confines (i : Instruments Memory) (part : Situation → α) (kind : Revision → Bool) : Prop :=
  ∀ r s m, ¬ kind r → part (i.revise r s m).1 = part s

/-- No call writes the part. -/
def Spares (i : Instruments Memory) (part : Situation → α) : Prop :=
  i.Confines part fun _ => false

/-- A part that is spared is after any call what it was before. -/
theorem Spares.revise {i : Instruments Memory} {part : Situation → α} (h : i.Spares part)
    (r : Revision) (s : Situation) (m : Memory) : part (i.revise r s m).1 = part s :=
  h r s m Bool.false_ne_true

/-- Calls stamp gates with the clock of the sample that they are handed, and with no other time. -/
def StampsHonestly (i : Instruments Memory) : Prop :=
  ∀ r s m value, ((i.revise r s m).1.gate value).Follows (s.gate value) r.clock?

/-- Instruments of a flight that lands at one time and finishes its task at another, with a climb
rate at every sample. -/
def timed (landing finish : Stamp) : Instruments Unit :=
  { none with
    revise := fun r s m => match r with
      | .airBasics feed =>
          ({ s with climb := { s.climb with available := .updatedAt feed.sample.clock } }, m)
      | .taskBasics feed _ =>
          ({ s with orderedTask := { s.orderedTask with
              finished := finish ≤ feed.sample.clock } }, m)
      | .flightPhase feed =>
          ({ s with flight := { s.flight with flying := feed.sample.clock < landing } }, m)
      | _ => (s, m) }

theorem timed_confines_flying (landing finish : Stamp) :
    (timed landing finish).Confines (fun s => s.flight.flying) Revision.isFlightPhase := by
  intro r s m h
  cases r with
  | flightPhase => exact absurd rfl h
  | airBasics | airVertical | taskBasics | taskMore | taskAuto | taskIdle | cruise
  | resetAirData => rfl

theorem timed_confines_finished (landing finish : Stamp) :
    (timed landing finish).Confines (fun s => s.orderedTask.finished) Revision.isTaskBasics := by
  intro r s m h
  cases r with
  | taskBasics => exact absurd rfl h
  | airBasics | airVertical | flightPhase | taskMore | taskAuto | taskIdle | cruise
  | resetAirData => rfl

/-- The climb rate is stamped with the clock of the sample, and no other gate is touched. -/
theorem timed_stampsHonestly (landing finish : Stamp) :
    (timed landing finish).StampsHonestly := by
  intro r s m value
  cases r with
  | airBasics feed =>
      cases value with
      | climb => exact .inr (.inr ⟨feed.sample.clock, rfl, rfl⟩)
      | estimatedWind | wind | pressure | headWind | sun | autoMacCready | airspaceWarnings | wave
      | fuel | ownCode => exact .inl rfl
  | taskBasics | flightPhase | airVertical | taskMore | taskAuto | taskIdle | cruise
  | resetAirData => cases value <;> exact .inl rfl

/-- Instruments that write the two flags as functions of the clock, and nothing else. -/
def flagged (flying finished : Stamp → Bool) : Instruments Unit :=
  { none with
    revise := fun r s m => match r with
      | .taskBasics feed _ =>
          ({ s with orderedTask := { s.orderedTask with
              finished := finished feed.sample.clock } }, m)
      | .flightPhase feed =>
          ({ s with flight := { s.flight with flying := flying feed.sample.clock } }, m)
      | _ => (s, m) }

theorem flagged_confines_finished (flying finished : Stamp → Bool) :
    (flagged flying finished).Confines (fun s => s.orderedTask.finished)
      Revision.isTaskBasics := by
  intro r s m h
  cases r with
  | taskBasics => exact absurd rfl h
  | airBasics | airVertical | flightPhase | taskMore | taskAuto | taskIdle | cruise
  | resetAirData => rfl

/-- A flight that finishes its task, lands, takes off once more and lands again. -/
def touchAndGo : Instruments Unit :=
  flagged (fun clock => clock < 2000 || 3000 ≤ clock && clock < 4000) (fun clock => 1000 ≤ clock)

theorem touchAndGo_confines_finished :
    touchAndGo.Confines (fun s => s.orderedTask.finished) Revision.isTaskBasics :=
  flagged_confines_finished _ _

end Instruments

end Soaring

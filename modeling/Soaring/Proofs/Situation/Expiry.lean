import Soaring.Situation.Expiry

/-!
Expiry as a filter. Each gate is passed through or closed by its own stamp and its own age, the own
code goes with its gate, and nothing else is looked at or changed. What two expiries leave is thus
what is fresh at both times, whichever of them comes first.
-/
namespace Soaring

namespace Gate

/-- Expiry keeps a stamp if it is not in the future and not too old. -/
theorem stamp_expire (g : Gate) (now maxAge : Stamp) :
    (g.expire now maxAge).stamp = g.stamp.filter fun t => t ≤ now && now - t ≤ maxAge := by
  unfold expire isFresh
  cases hStamp : g.stamp with
  | none => rfl
  | some t =>
      dsimp only
      split
      · next hFresh => rw [hStamp, Option.filter_some, if_pos hFresh]
      · next hOld => rw [Option.filter_some, if_neg hOld, closed]

/-- A stamp has to pass both filters, in either order. -/
theorem expire_comm (g : Gate) (a b maxAge : Stamp) :
    (g.expire a maxAge).expire b maxAge = (g.expire b maxAge).expire a maxAge := by
  have hStamp : ((g.expire a maxAge).expire b maxAge).stamp =
      ((g.expire b maxAge).expire a maxAge).stamp := by
    simp only [stamp_expire, Option.filter_filter, Bool.and_comm]
  exact congrArg mk hStamp

theorem expire_expire (g : Gate) (now maxAge : Stamp) :
    (g.expire now maxAge).expire now maxAge = g.expire now maxAge := by
  have hStamp : ((g.expire now maxAge).expire now maxAge).stamp = (g.expire now maxAge).stamp := by
    simp only [stamp_expire, Option.filter_filter, Bool.and_self]
  exact congrArg mk hStamp

/-- Expiry opens no gate. -/
theorem isValid_of_expire {g : Gate} {now maxAge : Stamp}
    (h : (g.expire now maxAge).isValid = true) : g.isValid = true := by
  rw [isValid, stamp_expire] at h
  exact Option.isSome_of_isSome_filter _ _ h

end Gate

namespace Situation

/-- Each gate expires by its own stamp and its own age, whatever the others do. -/
theorem gate_expire (s : Situation) (now : Stamp) (value : Gated) :
    (s.expire now).gate value = (s.gate value).expire now value.maxAge := by
  rw [← gate_mapGates s fun value gate => gate.expire now value.maxAge]
  unfold expire dropStaleOwnCode
  split
  · rfl
  · cases value <;> rfl

/-- All that expiry has no say in: the situation with its gates closed and without own code. -/
def ungated (s : Situation) : Situation :=
  { s with
    climb := { s.climb with available := .closed }
    wind := { s.wind with
      estimateAvailable := .closed
      windAvailable := .closed
      headWindAvailable := .closed }
    atmosphere := { s.atmosphere with
      pressureAvailable := .closed
      sunAvailable := .closed
      autoMacCreadyAvailable := .closed }
    team := { s.team with ownCode := none, ownCodeAvailable := .closed }
    fuel := { s.fuel with available := .closed }
    warnings := { s.warnings with latest := .closed }
    wave := { s.wave with available := .closed } }

theorem ungated_expire (s : Situation) (now : Stamp) : (s.expire now).ungated = s.ungated := by
  unfold expire dropStaleOwnCode
  split <;> rfl

/-- What expiry does to the team group: it may close the gate of the own code, which then goes. -/
theorem team_expire_eq (s : Situation) (now : Stamp) :
    let gate := s.team.ownCodeAvailable.expire now Gated.ownCode.maxAge
    (s.expire now).team = { s.team with
      ownCode := if gate.isValid then s.team.ownCode else none
      ownCodeAvailable := gate } := by
  unfold expire dropStaleOwnCode
  cases hOpen : (s.team.ownCodeAvailable.expire now Gated.ownCode.maxAge).isValid <;>
    simp [mapGates, hOpen]

theorem fuel_expire_eq (s : Situation) (now : Stamp) :
    (s.expire now).fuel =
      { s.fuel with available := s.fuel.available.expire now Gated.fuel.maxAge } := by
  unfold expire dropStaleOwnCode
  split <;> rfl

/-- The own code goes with its gate. -/
theorem ownCode_expire (s : Situation) (now : Stamp) :
    (s.expire now).team.ownCode =
      if ((s.expire now).gate .ownCode).isValid then s.team.ownCode else none := by
  rw [gate_expire, team_expire_eq]
  rfl

/-- Gates, own code and the rest make up a situation. -/
theorem ext_of_ungated {s t : Situation} (hRest : s.ungated = t.ungated)
    (hGates : ∀ value, s.gate value = t.gate value) (hCode : s.team.ownCode = t.team.ownCode) :
    s = t := by
  have hParts : ∀ u : Situation, u =
      let gated := u.ungated.mapGates fun value _ => u.gate value
      { gated with team := { gated.team with ownCode := u.team.ownCode } } := fun _ => rfl
  rw [hParts s, hParts t, hRest, funext hGates, hCode]

/-- The own code outlasts two expiries if its gate does: what is still open after the second one
was open after the first. -/
theorem ownCode_expire_expire (s : Situation) (a b : Stamp) :
    ((s.expire a).expire b).team.ownCode =
      if (((s.expire a).expire b).gate .ownCode).isValid then s.team.ownCode else none := by
  rw [ownCode_expire (s.expire a), ownCode_expire s]
  split
  · next hOpen =>
      rw [gate_expire (s.expire a)] at hOpen
      rw [if_pos (Gate.isValid_of_expire hOpen)]
  · rfl

/-- Expiry is exact and its order does not matter. A gate stays as it is if its stamp is not in the
future and at most as old as that gate allows, and else is closed; the own code stays if its gate is
open afterwards; all else stays in any case. So expiries at two times, forward or backward, may
change places, and a second one at the same time finds nothing to do. -/
theorem expire_exact (s : Situation) :
    (∀ now,
      (∀ value, (s.expire now).gate value = match (s.gate value).stamp with
        | some t => if t ≤ now ∧ now - t ≤ value.maxAge then s.gate value else .closed
        | none => .closed) ∧
      (s.expire now).team.ownCode =
        (if ((s.expire now).gate .ownCode).isValid then s.team.ownCode else none) ∧
      (s.expire now).ungated = s.ungated) ∧
    (∀ a b, (s.expire a).expire b = (s.expire b).expire a) ∧
    ∀ now, (s.expire now).expire now = s.expire now := by
  refine ⟨fun now => ⟨?_, ownCode_expire s now, ungated_expire s now⟩, ?_, ?_⟩
  · intro value
    rw [gate_expire]
    unfold Gate.expire Gate.isFresh
    cases (s.gate value).stamp <;> simp
  · intro a b
    have hGates : ∀ value,
        ((s.expire a).expire b).gate value = ((s.expire b).expire a).gate value := by
      intro value
      simp only [gate_expire]
      exact Gate.expire_comm _ a b _
    apply ext_of_ungated _ hGates
    · rw [ownCode_expire_expire, ownCode_expire_expire, hGates]
    · simp only [ungated_expire]
  · intro now
    have hGates : ∀ value, ((s.expire now).expire now).gate value = (s.expire now).gate value := by
      intro value
      simp only [gate_expire]
      exact Gate.expire_expire _ now _
    apply ext_of_ungated (ungated_expire _ _) hGates
    rw [ownCode_expire_expire, hGates, ownCode_expire]

end Situation

end Soaring

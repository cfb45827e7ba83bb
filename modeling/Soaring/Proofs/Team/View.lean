import Soaring.Proofs.Team.Reference

/-!
What the team computations make of the team group. They write it piecemeal: a lost reference drops
the location and nothing of the mate's code, a lost contact keeps where the mate was, and only a
reference that is named no more empties the group, provided that a lookup is remembered. Whatever
they write, values and the flags that vouch for them stay together.
-/
namespace Soaring

/-- A value is there wherever a flag or gate of the group says so. -/
structure TeamView.Consistent (t : TeamView) : Prop where
  ownCode : t.ownCode.isSome = t.ownCodeAvailable.isValid
  mate : t.mateAvailable = true →
    t.mateCourse ≠ none ∧ t.mateLocation ≠ none ∧ t.reference ≠ none
  peer : t.peerCodeCurrent = true → t.peerCode ≠ none

theorem TeamView.consistent_empty : ({} : TeamView).Consistent :=
  ⟨rfl, fun h => (Bool.false_ne_true h).elim, fun h => (Bool.false_ne_true h).elim⟩

namespace Team

/-- A lookup is remembered, whatever its outcome. -/
def Reference.isSet : Reference → Bool
  | .unset => false
  | .resolved _ _ | .missing _ => true

/-- After a resolution something is remembered if a waypoint was named. -/
theorem Reference.isSet_resolve (r : Reference) (named : Option WaypointId)
    (source : WaypointSource) (team : TeamView) :
    (r.resolve named source team).reference.isSet = named.isSome := by
  cases named with
  | none => rfl
  | some id =>
      rw [(r.resolve_some id source team).2]
      cases (r.resolve (some id) source team).location <;> rfl

/-- Without a waypoint named, the group is emptied if a lookup is remembered and left alone
otherwise. -/
theorem team_track_unnamed (t : Tracker) (interval : Nat) (feed : Feed) (source : WaypointSource)
    (team : TeamView) (hNamed : feed.settings.team.reference = none) :
    (t.track interval feed source team).team = if t.reference.isSet then {} else team := by
  have hReleased : (t.track interval feed source team).team = (t.reference.release team).team := by
    unfold Tracker.track
    simp only [hNamed]
    rfl
  rw [hReleased]
  cases t.reference <;> rfl

/-- The code of the team mate that a sample gives: that of the configured contact's position in it
or, without a configured contact, the typed code. -/
def codeOfMate? (settings : TeamSettings) (sample : Sample) (reference : Geo.Point) :
    Option Code :=
  match settings.flarm with
  | some id => ((sample.traffic.find? id).bind Contact.location).map (.ofPosition reference)
  | none => settings.code

/-- Once the mate has been looked for, its code counts as current exactly if the sample gives one,
and then it is that. -/
theorem peerCode_updateMate (settings : TeamSettings) (sample : Sample) (reference : Geo.Point)
    (team : TeamView) :
    let after := updateMate settings sample reference team
    after.peerCodeCurrent = (codeOfMate? settings sample reference).isSome ∧
    (after.peerCodeCurrent = true → after.peerCode = codeOfMate? settings sample reference) := by
  unfold updateMate codeOfMate?
  cases settings.flarm with
  | some id =>
      dsimp only
      cases (sample.traffic.find? id).bind Contact.location with
      | none => exact ⟨rfl, fun h => (Bool.false_ne_true h).elim⟩
      | some mate => exact ⟨rfl, fun _ => rfl⟩
  | none =>
      cases settings.code with
      | none => exact ⟨rfl, fun h => (Bool.false_ne_true h).elim⟩
      | some code => exact ⟨rfl, fun _ => rfl⟩

/-- With a waypoint named, the mate's code is that of the sample if the store has the waypoint, and
otherwise it stays as current as it was. -/
theorem peerCode_compute (clock : PeriodClock) (interval : Nat) (feed : Feed)
    (answer : Option Geo.Point) (team : TeamView) :
    let after := (compute clock interval feed answer team).2
    (answer = none → after.peerCodeCurrent = team.peerCodeCurrent) ∧
    (after.peerCodeCurrent = true → ∀ reference, answer = some reference →
      ∃ code, codeOfMate? feed.settings.team feed.sample reference = some code ∧
        after.peerCode = some code) := by
  cases answer with
  | none => exact ⟨fun _ => rfl, fun _ _ hNone => nomatch hNone⟩
  | some reference =>
      refine ⟨nofun, ?_⟩
      intro hCurrent other hOther
      obtain rfl : reference = other := Option.some.inj hOther
      obtain ⟨hFlag, hCode⟩ := peerCode_updateMate feed.settings.team feed.sample reference
        (updateOwnCode clock interval feed.sample reference
          { team with reference := some reference }).2
      obtain ⟨code, hGiven⟩ := Option.isSome_iff_exists.mp (hFlag.symm.trans hCurrent)
      exact ⟨code, hGiven, (hCode hCurrent).trans hGiven⟩

section

variable {team : TeamView}

/-- A lookup publishes what it has found. If that is nothing, the mate is not available any more,
since the way to it needs a reference. -/
theorem consistent_lookup (h : team.Consistent) (r : Reference) (id : WaypointId)
    (source : WaypointSource) : (r.lookup id source team).team.Consistent := by
  unfold Reference.lookup
  split
  · exact ⟨h.ownCode, fun hMate => ⟨(h.mate hMate).1, (h.mate hMate).2.1, nofun⟩, h.peer⟩
  · exact ⟨h.ownCode, fun hMate => (Bool.false_ne_true hMate).elim, h.peer⟩

/-- A release empties the group, and a reference that is known already is published like one that
was looked up. -/
theorem consistent_resolve (h : team.Consistent) (r : Reference) (named : Option WaypointId)
    (source : WaypointSource) : (r.resolve named source team).team.Consistent := by
  cases named with
  | none =>
      cases r with
      | unset => exact h
      | resolved | missing => exact TeamView.consistent_empty
  | some id =>
      rcases r.resolve_cases id source team with ⟨location, -, hKnown⟩ | ⟨-, hLookup⟩
      · rw [hKnown]
        exact ⟨h.ownCode, fun hMate => ⟨(h.mate hMate).1, (h.mate hMate).2.1, nofun⟩, h.peer⟩
      · rw [hLookup]
        exact consistent_lookup h r id source

/-- An own code is computed together with its gate. -/
theorem consistent_updateOwnCode (h : team.Consistent) (clock : PeriodClock) (interval : Nat)
    (sample : Sample) (reference : Geo.Point) :
    (updateOwnCode clock interval sample reference team).2.Consistent := by
  unfold updateOwnCode
  split
  · exact h
  · split
    · exact h
    · exact ⟨rfl, h.mate, h.peer⟩

/-- The mate counts as available only with a way to it, which is computed from its location. The
reference has to be there already. -/
theorem consistent_placeMate (h : team.Consistent) (hReference : team.reference ≠ none)
    (sample : Sample) (mate : Geo.Point) : (placeMate sample mate team).Consistent := by
  refine ⟨h.ownCode, fun hMate => ⟨?_, nofun, hReference⟩, h.peer⟩
  exact Option.isSome_iff_ne_none.mp hMate

/-- A contact that is lost is no longer current, and with neither contact nor code the mate is gone.
In the other cases it is placed. -/
theorem consistent_updateMate (h : team.Consistent) (hReference : team.reference ≠ none)
    (settings : TeamSettings) (sample : Sample) (reference : Geo.Point) :
    (updateMate settings sample reference team).Consistent := by
  have hCoded : ∀ code, TeamView.Consistent
      { team with peerCode := some code, peerCodeCurrent := true } :=
    fun code => ⟨h.ownCode, h.mate, fun _ => Option.some_ne_none code⟩
  unfold updateMate
  split
  · split
    · exact ⟨h.ownCode, h.mate, fun hPeer => (Bool.false_ne_true hPeer).elim⟩
    · exact consistent_placeMate (hCoded _) hReference sample _
  · exact consistent_placeMate (hCoded _) hReference sample _
  · exact ⟨h.ownCode, fun hMate => (Bool.false_ne_true hMate).elim,
      fun hPeer => (Bool.false_ne_true hPeer).elim⟩

/-- The team computations keep the group consistent: they publish the reference before they compute
anything for it. -/
theorem consistent_track (h : team.Consistent) (t : Tracker) (interval : Nat) (feed : Feed)
    (source : WaypointSource) : (t.track interval feed source team).team.Consistent := by
  have hFound := consistent_resolve h t.reference feed.settings.team.reference source
  unfold Tracker.track
  dsimp only
  cases hNamed : feed.settings.team.reference with
  | none =>
      rw [hNamed] at hFound
      exact hFound
  | some id =>
      rw [hNamed] at hFound
      have hPublished := (t.reference.resolve_some id source team).1
      generalize t.reference.resolve (some id) source team = found at hFound hPublished
      split
      · exact hFound
      · next reference hLocation =>
          refine consistent_updateMate (consistent_updateOwnCode hFound ..) ?_ _ _ _
          rw [reference_updateOwnCode, hPublished, hLocation]
          exact nofun

end

end Team

end Soaring

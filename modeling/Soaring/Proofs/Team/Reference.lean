import Soaring.Proofs.Engine.Effects

/-!
The cached team reference against the store it was looked up in. A reference is coherent when what
it remembers as found is what the store says now. Lookups keep that, and then memory and store lead
to the same location, so a tracker that has forgotten its reference catches up in one step, and the
team computations are those for the store's answer of now. What memory does show in are the entries.
-/
namespace Soaring

/-- The entry is about the team reference: the store was consulted, or its answer was noted. -/
def Entry.ofReference : Entry → Bool
  | .lookup _ | .note (.referenceResolved _) | .note (.referenceNotFound _) => true
  | _ => false

/-- What concerns the reference neither reaches the instruments nor the queue. -/
theorem Entry.not_isEffect_of_ofReference {entry : Entry} (h : entry.ofReference = true) :
    ¬ entry.isEffect := by
  cases entry with
  | call | event => cases h
  | note | lookup => exact Bool.false_ne_true

namespace Team

/-- What the reference remembers as found is still what the store answers. -/
def Reference.Coherent (r : Reference) (source : WaypointSource) : Prop :=
  ∀ id location, r = .resolved id location → ∃ w, source id = some w ∧ w.location = location

theorem Reference.coherent_unset (source : WaypointSource) :
    Reference.unset.Coherent source := by
  intro id location h
  cases h

/-- A lookup answers from the store alone. -/
theorem Reference.coherent_lookup (r : Reference) (id : WaypointId) (source : WaypointSource)
    (team : TeamView) : (r.lookup id source team).reference.Coherent source := by
  intro known location h
  unfold lookup at h
  split at h
  · next w hFound =>
      cases h
      exact ⟨w, hFound, rfl⟩
  · cases h

/-- Whatever the settings name, resolving keeps a coherent reference coherent. -/
theorem Reference.coherent_resolve {r : Reference} {source : WaypointSource}
    (h : r.Coherent source) (named : Option WaypointId) (team : TeamView) :
    (r.resolve named source team).reference.Coherent source := by
  cases named with
  | none => exact coherent_unset source
  | some id =>
      cases r with
      | unset => exact coherent_lookup _ id source team
      | missing other => exact coherent_lookup _ id source team
      | resolved known location =>
          by_cases hKnown : known = id
          · simpa [resolve, hKnown] using h
          · simpa [resolve, hKnown] using coherent_lookup (.resolved known location) id source team

/-- A lookup does the same whatever was remembered, but for the note on a waypoint that is known
to be missing. -/
theorem Reference.lookup_congr (r s : Reference) (id : WaypointId) (source : WaypointSource)
    (team : TeamView) :
    (r.lookup id source team).reference = (s.lookup id source team).reference ∧
    (r.lookup id source team).team = (s.lookup id source team).team ∧
    (r.lookup id source team).location = (s.lookup id source team).location := by
  unfold lookup
  split <;> exact ⟨rfl, rfl, rfl⟩

/-- The reference is known to have been found. -/
def Reference.isResolved (r : Reference) (id : WaypointId) : Bool :=
  match r with
  | .resolved known _ => known == id
  | _ => false

/-- What a coherent reference has found is in the store. -/
theorem Reference.Coherent.ne_none_of_isResolved {r : Reference} {source : WaypointSource}
    (h : r.Coherent source) {id : WaypointId} (hKnown : r.isResolved id = true) :
    source id ≠ none := by
  cases r with
  | unset | missing => cases hKnown
  | resolved known location =>
      obtain rfl : known = id := by simpa [isResolved] using hKnown
      obtain ⟨w, hFound, -⟩ := h known location rfl
      simp [hFound]

/-- A named waypoint is either found in memory or looked up. -/
theorem Reference.resolve_cases (r : Reference) (id : WaypointId) (source : WaypointSource)
    (team : TeamView) :
    (∃ location, r = .resolved id location ∧ r.resolve (some id) source team =
      { reference := r
        team := { team with reference := some location }
        location := some location
        entries := [] }) ∨
    (r.isResolved id = false ∧ r.resolve (some id) source team = r.lookup id source team) := by
  cases r with
  | unset | missing => exact .inr ⟨rfl, rfl⟩
  | resolved known location =>
      by_cases hKnown : known = id
      · subst hKnown
        exact .inl ⟨location, rfl, by simp [resolve]⟩
      · exact .inr ⟨by simp [isResolved, hKnown], by simp [resolve, hKnown]⟩

/-- A named waypoint is resolved to where the store has it now. -/
theorem Reference.location_resolve {r : Reference} {source : WaypointSource}
    (h : r.Coherent source) (named : Option WaypointId) (team : TeamView) :
    (r.resolve named source team).location = (named.bind source).map Waypoint.location := by
  cases named with
  | none => rfl
  | some id =>
      rcases r.resolve_cases id source team with ⟨location, hKnown, hResolve⟩ | ⟨-, hResolve⟩
      · obtain ⟨w, hFound, hLocation⟩ := h id location hKnown
        simp [hResolve, hFound, hLocation]
      · rw [hResolve]
        unfold lookup
        split <;> simp [*]

/-- Which location was published, and what is remembered, follows from the outcome. -/
theorem Reference.resolve_some (r : Reference) (id : WaypointId) (source : WaypointSource)
    (team : TeamView) :
    let found := r.resolve (some id) source team
    found.team.reference = found.location ∧
    found.reference = match found.location with
      | some location => .resolved id location
      | none => .missing id := by
  intro found
  rcases r.resolve_cases id source team with ⟨location, hKnown, hResolve⟩ | ⟨-, hResolve⟩
  · simp [found, hResolve, hKnown]
  · simp only [found, hResolve]
    unfold lookup
    split <;> exact ⟨rfl, rfl⟩

/-- A reference is held as resolved if the computations have a location to refer to. -/
theorem Reference.isResolved_resolve_iff (r : Reference) (named : Option WaypointId)
    (source : WaypointSource) (team : TeamView) (id : WaypointId) :
    (r.resolve named source team).reference.isResolved id = true ↔
      named = some id ∧ (r.resolve named source team).location ≠ none := by
  cases named with
  | none => simp [resolve, release, isResolved]
  | some other =>
      rw [(r.resolve_some other source team).2]
      cases (r.resolve (some other) source team).location <;> simp [isResolved]

/-- A reference is held as missing if it was named and has no location. -/
theorem Reference.isMissing_resolve_iff (r : Reference) (named : Option WaypointId)
    (source : WaypointSource) (team : TeamView) (id : WaypointId) :
    (r.resolve named source team).reference.isMissing id = true ↔
      named = some id ∧ (r.resolve named source team).location = none := by
  cases named with
  | none => simp [resolve, release, isMissing]
  | some other =>
      rw [(r.resolve_some other source team).2]
      cases (r.resolve (some other) source team).location <;> simp [isMissing]

/-- A named waypoint that is not found in memory is looked up once, and the outcome is noted, but a
failure is not noted twice in a row. -/
theorem Reference.entries_resolve (r : Reference) (id : WaypointId) (source : WaypointSource)
    (team : TeamView) :
    (r.resolve (some id) source team).entries =
      if r.isResolved id then []
      else .lookup id :: match source id with
        | some _ => [.note (.referenceResolved id)]
        | none => if r.isMissing id then [] else [.note (.referenceNotFound id)] := by
  rcases r.resolve_cases id source team with ⟨location, hKnown, hResolve⟩ | ⟨hUnknown, hResolve⟩
  · rw [hResolve, hKnown]
    simp [isResolved]
  · rw [hResolve, hUnknown]
    unfold lookup
    cases source id <;> rfl

/-- A named waypoint is resolved as if nothing was remembered, but for the entries. -/
theorem Reference.resolve_some_eq_unset {r : Reference} {source : WaypointSource}
    (h : r.Coherent source) (id : WaypointId) (team : TeamView) :
    (r.resolve (some id) source team).reference =
        (unset.resolve (some id) source team).reference ∧
    (r.resolve (some id) source team).team = (unset.resolve (some id) source team).team ∧
    (r.resolve (some id) source team).location =
        (unset.resolve (some id) source team).location := by
  rcases r.resolve_cases id source team with ⟨location, hKnown, hResolve⟩ | ⟨-, hResolve⟩
  · obtain ⟨w, hFound, hLocation⟩ := h id location hKnown
    rw [hResolve, hKnown]
    simp [resolve, lookup, hFound, hLocation]
  · rw [hResolve]
    exact r.lookup_congr unset id source team

/-- On an empty team group a coherent reference and a forgotten one lead to the same reference, the
same group and the same location. The group is empty in either case when no waypoint is named, and
the location in memory is the one that the store answers when one is. -/
theorem Reference.resolve_eq_resolve_unset {r : Reference} {source : WaypointSource}
    (h : r.Coherent source) (named : Option WaypointId) :
    (r.resolve named source {}).reference = (unset.resolve named source {}).reference ∧
    (r.resolve named source {}).team = (unset.resolve named source {}).team ∧
    (r.resolve named source {}).location = (unset.resolve named source {}).location := by
  cases named with
  | none => cases r <;> exact ⟨rfl, rfl, rfl⟩
  | some id => exact resolve_some_eq_unset h id {}

/-- What the settings name decides the reference after a tick's team computations. -/
theorem reference_track (t : Tracker) (interval : Nat) (feed : Feed) (source : WaypointSource)
    (team : TeamView) :
    (t.track interval feed source team).tracker.reference =
      (t.reference.resolve feed.settings.team.reference source team).reference := by
  unfold Tracker.track
  dsimp only
  split <;> rfl

/-- The computations after the resolution enter nothing. -/
theorem entries_track (t : Tracker) (interval : Nat) (feed : Feed) (source : WaypointSource)
    (team : TeamView) :
    (t.track interval feed source team).entries =
      (t.reference.resolve feed.settings.team.reference source team).entries := by
  unfold Tracker.track
  dsimp only
  split <;> rfl

/-- On an empty team group, what a coherent reference remembers does not matter. -/
theorem track_eq_track_unset {r : Reference} {source : WaypointSource} (h : r.Coherent source)
    (clock : PeriodClock) (interval : Nat) (feed : Feed) :
    (Tracker.track ⟨r, clock⟩ interval feed source {}).tracker =
      (Tracker.track ⟨.unset, clock⟩ interval feed source {}).tracker ∧
    (Tracker.track ⟨r, clock⟩ interval feed source {}).team =
      (Tracker.track ⟨.unset, clock⟩ interval feed source {}).team := by
  obtain ⟨hReference, hTeam, hLocation⟩ :=
    Reference.resolve_eq_resolve_unset h feed.settings.team.reference
  unfold Tracker.track
  simp only [hReference, hTeam, hLocation]
  split <;> exact ⟨rfl, rfl⟩

/-- The team computations for what the store has answered on the waypoint that the settings name.
They know nothing of earlier answers. -/
def compute (clock : PeriodClock) (interval : Nat) (feed : Feed) (answer : Option Geo.Point)
    (team : TeamView) : PeriodClock × TeamView :=
  match answer with
  | none => (clock, { team with reference := none, mateAvailable := false })
  | some reference =>
    let (clock, team) := updateOwnCode clock interval feed.sample reference
      { team with reference := some reference }
    (clock, updateMate feed.settings.team feed.sample reference team)

/-- With a named waypoint and a coherent reference, the team computations are those for the store's
answer of now. -/
theorem track_eq_compute (t : Tracker) (interval : Nat) (feed : Feed) (team : TeamView)
    {source : WaypointSource} {id : WaypointId} (hCoherent : t.reference.Coherent source)
    (hNamed : feed.settings.team.reference = some id) :
    let answered := compute t.ownCodeClock interval feed ((source id).map Waypoint.location) team
    (t.track interval feed source team).tracker.ownCodeClock = answered.1 ∧
    (t.track interval feed source team).team = answered.2 := by
  obtain ⟨-, hTeam, hLocation⟩ := Reference.resolve_some_eq_unset hCoherent id team
  unfold Tracker.track compute
  dsimp only
  rw [hNamed, hTeam, hLocation]
  cases hFound : source id <;> simp [Reference.resolve, Reference.lookup, hFound]

/-- Locating the mate leaves the reference and the own code alone. -/
@[simp]
theorem updateMate_frame (settings : TeamSettings) (sample : Sample) (reference : Geo.Point)
    (team : TeamView) :
    (updateMate settings sample reference team).reference = team.reference ∧
    (updateMate settings sample reference team).ownCode = team.ownCode ∧
    (updateMate settings sample reference team).ownCodeAvailable = team.ownCodeAvailable := by
  unfold updateMate
  split
  · split <;> exact ⟨rfl, rfl, rfl⟩
  · exact ⟨rfl, rfl, rfl⟩
  · exact ⟨rfl, rfl, rfl⟩

theorem reference_updateOwnCode (clock : PeriodClock) (interval : Nat) (sample : Sample)
    (reference : Geo.Point) (team : TeamView) :
    (updateOwnCode clock interval sample reference team).2.reference = team.reference := by
  unfold updateOwnCode
  split
  · rfl
  · split <;> rfl

/-- The location that the computations are for is the one that is published. -/
theorem reference_compute (clock : PeriodClock) (interval : Nat) (feed : Feed)
    (answer : Option Geo.Point) (team : TeamView) :
    (compute clock interval feed answer team).2.reference = answer := by
  cases answer with
  | none => rfl
  | some reference =>
      simp [compute, reference_updateOwnCode]

/-- The team computations enter what there is to tell about the reference, and nothing else. -/
theorem ofReference_of_mem_track {t : Tracker} {interval : Nat} {feed : Feed}
    {source : WaypointSource} {team : TeamView} {entry : Entry}
    (h : entry ∈ (t.track interval feed source team).entries) : entry.ofReference = true := by
  have hAll : ∀ entry ∈ (t.reference.resolve feed.settings.team.reference source team).entries,
      entry.ofReference = true := by
    cases feed.settings.team.reference with
    | none => exact fun _ hNone => nomatch hNone
    | some id =>
        rw [Reference.entries_resolve]
        cases t.reference.isResolved id <;> cases source id <;> cases t.reference.isMissing id <;>
          simp [Entry.ofReference]
  rw [entries_track] at h
  exact hAll entry h

end Team

end Soaring

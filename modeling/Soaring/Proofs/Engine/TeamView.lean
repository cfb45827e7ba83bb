import Soaring.Proofs.Engine.OwnCode
import Soaring.Proofs.Engine.TeamReference
import Soaring.Proofs.Team.View

/-!
The team group over whole runs. What it says stays consistent, whatever is saved and brought back.
Whether it is about the current sample is another matter, for group and remembered lookup go
separate ways: a new store makes the engine forget the lookup and not the group, a snapshot brings
an earlier group back and no lookup, and a reference that is missing leaves the mate's code marked
as it was.
-/
namespace Soaring.Engine

variable {Memory : Type}

/-- Neither a sample nor the team computations separate a value from its gate or flag. -/
theorem kept_consistent {i : Instruments Memory} (hSpares : i.Spares Situation.team) :
    Kept i fun s => s.team.Consistent where
  initial := TeamView.consistent_empty
  revise := by
    intro r s m h
    rwa [hSpares.revise]
  accept := by
    intro s localTime now h
    rw [Situation.team_expire_eq]
    refine ⟨?_, h.mate, h.peer⟩
    have hCode := h.ownCode
    dsimp only
    unfold Gate.expire
    split
    · cases hOpen : s.team.ownCodeAvailable.isValid <;> simp [hOpen, hCode]
    · rfl
  team := fun _ t interval feed source h => Team.consistent_track h t interval feed source

/-- The team group is consistent. Over instruments that do not write it, after every run of
operations, an own code is there exactly when its gate is open, a mate that counts as available has
a location, a way to it and a reference, and a peer code that counts as current is there. The same
holds of the group in the snapshot of the finish. -/
theorem team_run_consistent (i : Instruments Memory) (m : Memory) (settings : Settings)
    (cadence : Cadence) (waypoints : WaypointSource) (operations : List Operation)
    (hSpares : i.Spares Situation.team) :
    let e := (powerUp i m settings cadence waypoints).run operations
    e.situation.team.Consistent ∧ ∀ saved, e.finish = some saved → saved.team.Consistent := by
  intro e
  have hRun := ((kept_consistent hSpares).powerUp m settings cadence waypoints).run operations
  exact ⟨hRun.holds, hRun.snapshot⟩

def homeOnly : WaypointSource :=
  Waypoints.source ⟨[Waypoint.named ⟨7⟩ "home" ⟨47.5, 11.25⟩], by decide⟩

/-- The settings of a pilot who has named a waypoint and typed the code of a team mate. -/
def paired (id : WaypointId) : Settings :=
  { team := { reference := some id, code := some ⟨.ofNat 2 1000, .ofNat 3 123⟩ } }

def positioned (clock : Stamp) : Operation :=
  .tick { clock := clock, location := some ⟨47.6, 11.5⟩ } false

/-- The group is complete when it is saved. Later the pilot has named a waypoint that does not
exist, the own code has expired, and the mate's code is left. -/
theorem savedTeam_consistent :
    let e := (powerUp Instruments.none () (paired ⟨7⟩) {} homeOnly).run
      [positioned 0, .saveFinish, .setSettings (paired ⟨9⟩), positioned 31000]
    Instruments.none.Spares Situation.team ∧
    (e.situation.team.ownCode = none ∧ e.situation.team.peerCode ≠ none) ∧
    e.situation.team.Consistent ∧
    ∃ saved, e.finish = some saved ∧ saved.team.ownCode ≠ none ∧
      saved.team.mateAvailable = true ∧ saved.team.Consistent := by
  intro e
  have hSpares : Instruments.none.Spares Situation.team := fun _ _ _ _ => rfl
  obtain ⟨hShown, hSaved⟩ := team_run_consistent Instruments.none () (paired ⟨7⟩) {} homeOnly
    [positioned 0, .saveFinish, .setSettings (paired ⟨9⟩), positioned 31000] hSpares
  obtain ⟨saved, hFinish⟩ := Option.isSome_iff_exists.mp
    (show e.finish.isSome = true by decide +kernel)
  have hFull : e.finish.any (fun saved => saved.team.ownCode.isSome &&
      saved.team.mateAvailable) = true := by decide +kernel
  rw [hFinish, Option.any_some, Bool.and_eq_true] at hFull
  exact ⟨hSpares, ⟨Option.isNone_iff_eq_none.mp (by decide +kernel),
    Option.isSome_iff_ne_none.mp (by decide +kernel)⟩, hShown, saved, hFinish,
    Option.isSome_iff_ne_none.mp hFull.1, hFull.2, hSaved saved hFinish⟩

theorem reference_powerUp (i : Instruments Memory) (m : Memory) (settings : Settings)
    (cadence : Cadence) (waypoints : WaypointSource) :
    (powerUp i m settings cadence waypoints).tracker.reference = .unset := by
  simp [powerUp, Team.Tracker.resetThrottle]

/-- The settings that the tick is made with name a waypoint. -/
def Names (e : Engine Memory) (_ : Sample) (_ : Bool) : Prop :=
  e.settings.team.reference ≠ none

/-- Something is remembered if the latest tick had a waypoint named. -/
theorem isSet_run_iff {start : Engine Memory} (hStart : start.tracker.reference = .unset)
    (past : List Operation) :
    (start.run past).tracker.reference.isSet = true ↔ start.LatestTick past Names := by
  have hStep : ∀ (e : Engine Memory) sample force,
      (e.perform (.tick sample force)).1.tracker.reference.isSet = true ↔
        e.Names sample force := by
    intro e sample force
    rw [reference_tick, Team.Reference.isSet_resolve, Names, Option.isSome_iff_ne_none]
  rw [reference_run_iff Team.Reference.isSet rfl hStart]
  simp only [hStep]

/-- A tick without a waypoint named empties the team group if a lookup is remembered; otherwise it
leaves it to expiry. -/
theorem team_tick_unnamed {e : Engine Memory} (hSpares : e.instruments.Spares Situation.team)
    {sample : Sample} {force : Bool} (hNamed : e.settings.team.reference = none)
    (hKept : e.recalls (.tick sample force) = false) :
    (e.perform (.tick sample force)).1.situation.team =
      if e.tracker.reference.isSet then {} else (e.situation.expire sample.clock).team := by
  rw [team_tick hSpares hKept]
  exact Team.team_track_unnamed e.tracker e.cadence.teamCode ⟨sample, e.settings⟩ e.waypoints
    (e.situation.expire sample.clock).team hNamed

/-- There is something of a team, and no lookup is remembered by whose loss it would go. -/
structure Orphaned (e : Engine Memory) : Prop where
  forgotten : e.tracker.reference.isSet = false
  left : e.situation.team ≠ {}

/-- Only a new store and a snapshot that is brought back part the team group from the lookup that it
is from. -/
theorem Orphaned.of_perform {e : Engine Memory} {operation : Operation}
    (h : (e.perform operation).1.Orphaned) (hSpares : e.instruments.Spares Situation.team)
    (hStore : ∀ store, operation ≠ .setWaypoints store) (hKept : e.recalls operation = false) :
    e.Orphaned := by
  cases hSample : operation.sample? with
  | some sample =>
      obtain ⟨force, rfl⟩ := exists_eq_tick hSample
      have hNamed : e.settings.team.reference = none := by
        have hForgotten := h.forgotten
        rw [reference_tick, Team.Reference.isSet_resolve] at hForgotten
        exact Option.not_isSome_iff_eq_none.mp (Bool.eq_false_iff.mp hForgotten)
      have hLeft := h.left
      rw [team_tick_unnamed hSpares hNamed hKept] at hLeft
      split at hLeft
      · exact absurd rfl hLeft
      · next hForgotten =>
          exact ⟨Bool.eq_false_iff.mpr hForgotten, fun hEmpty => hLeft (team_expire hEmpty _)⟩
  | none =>
      have hKind : operation.concernsReference = false := by
        cases operation with
        | tick => cases hSample
        | setWaypoints store => exact absurd rfl (hStore store)
        | idlePass | resetFlight | startTask | enterZone | saveFinish | restoreFinish
        | setSettings | drainEvents => rfl
      have hForgotten := h.forgotten
      rw [reference_perform hKind] at hForgotten
      rcases ownCode_perform_cases hSpares hSample hKept with ⟨-, -, hTeam⟩ | ⟨-, hTeam⟩
      · exact absurd hTeam h.left
      · exact ⟨hForgotten, hTeam ▸ h.left⟩

/-- A team group without a lookup remembered goes back to a new store or to a snapshot. -/
theorem Orphaned.of_run {start : Engine Memory} {past : List Operation}
    (h : (start.run past).Orphaned) (hSpares : start.instruments.Spares Situation.team)
    (hStart : ¬ start.Orphaned) :
    ∃ before operation between, past = before ++ operation :: between ∧
      ((∃ store, operation = .setWaypoints store) ∨
        (start.run before).recalls operation = true) ∧
      (start.run (before ++ [operation])).Orphaned := by
  -- From the end: the last operation has parted the two, or they were apart before it.
  induction past using List.reverseRecOn with
  | nil => exact absurd h hStart
  | append_singleton past operation ih =>
      by_cases hParts : (∃ store, operation = .setWaypoints store) ∨
          (start.run past).recalls operation = true
      · exact ⟨past, operation, [], rfl, hParts, h⟩
      · rw [not_or, not_exists, Bool.not_eq_true] at hParts
        rw [run_concat] at h
        obtain ⟨before, earlier, between, rfl, hEarlier⟩ :=
          ih (h.of_perform (by simpa using hSpares) hParts.1 hParts.2)
        exact ⟨before, earlier, between ++ [operation], by simp, hEarlier⟩

/-- What a tick without a reference shows of the team. Over instruments that do not write the team
group, a tick that has no waypoint named and brings no snapshot back ends with an empty group
exactly if the latest tick had a waypoint named, with the same store, or expiry has left the group
empty. If something of the team remains, it goes back to a new store or to a snapshot. -/
theorem team_unnamed_tick_eq_empty_iff (i : Instruments Memory) (m : Memory) (settings : Settings)
    (cadence : Cadence) (waypoints : WaypointSource) (past : List Operation) (sample : Sample)
    (force : Bool) (hSpares : i.Spares Situation.team) :
    let start := powerUp i m settings cadence waypoints
    let e := start.run past
    let shown := (e.perform (.tick sample force)).1.situation.team
    e.settings.team.reference = none → e.recalls (.tick sample force) = false →
      (shown = {} ↔ start.LatestTick past Names ∨ (e.situation.expire sample.clock).team = {}) ∧
      (shown ≠ {} → ∃ before operation between, past = before ++ operation :: between ∧
        ((∃ store, operation = .setWaypoints store) ∨
          (start.run before).recalls operation = true) ∧
        (start.run (before ++ [operation])).Orphaned) := by
  intro start e shown hNamed hKept
  have hInstruments : start.instruments.Spares Situation.team := by
    simpa [start, powerUp] using hSpares
  have hStart : start.tracker.reference = .unset :=
    reference_powerUp i m settings cadence waypoints
  have hShown : shown =
      if e.tracker.reference.isSet then {} else (e.situation.expire sample.clock).team :=
    team_tick_unnamed (by simpa [e] using hInstruments) hNamed hKept
  have hEmpty : shown = {} ↔
      e.tracker.reference.isSet = true ∨ (e.situation.expire sample.clock).team = {} := by
    rw [hShown]
    cases e.tracker.reference.isSet <;> simp
  refine ⟨by rw [hEmpty, isSet_run_iff hStart], fun hLeft => ?_⟩
  rw [Ne, hEmpty, not_or, Bool.not_eq_true] at hLeft
  have hOrphaned : e.Orphaned := ⟨hLeft.1, fun hNone => hLeft.2 (team_expire hNone _)⟩
  have hFresh : ¬ start.Orphaned := fun h => h.left (by simp [start, powerUp, hSpares.revise]; rfl)
  exact hOrphaned.of_run hInstruments hFresh

/-- Settings without a waypoint let go of the group, as long as the store is the same. -/
theorem unnamedReference_team_eq_empty :
    let e := (powerUp Instruments.none () (paired ⟨7⟩) {} homeOnly).run
      [positioned 0, .setSettings {}]
    Instruments.none.Spares Situation.team ∧ e.settings.team.reference = none ∧
    e.recalls (positioned 1000) = false ∧ e.situation.team ≠ {} ∧
    (e.perform (positioned 1000)).1.situation.team = {} := by
  intro e
  have hSpares : Instruments.none.Spares Situation.team := fun _ _ _ _ => rfl
  have hKept : e.recalls (positioned 1000) = false := by decide +kernel
  have hLeft : e.situation.team.ownCode.isSome = true := by decide +kernel
  have hLatest : LatestTick (powerUp Instruments.none () (paired ⟨7⟩) {} homeOnly)
      [positioned 0, .setSettings {}] Names :=
    ⟨[], _, _, [.setSettings {}], rfl, by decide, by simp [Names, paired, powerUp, run]⟩
  have hEmpty := (team_unnamed_tick_eq_empty_iff Instruments.none () (paired ⟨7⟩) {} homeOnly
    [positioned 0, .setSettings {}] _ false hSpares rfl hKept).1.mpr (.inl hLatest)
  refine ⟨hSpares, rfl, hKept, fun hNone => ?_, by simpa only [e, positioned] using hEmpty⟩
  rw [hNone] at hLeft
  cases hLeft

/-- A new store makes the engine forget the lookup, so the group stays when no waypoint is named. -/
theorem replacedStore_team_ne_empty :
    let e := (powerUp Instruments.none () (paired ⟨7⟩) {} homeOnly).run
      [positioned 0, .setSettings {}, .setWaypoints homeOnly]
    Instruments.none.Spares Situation.team ∧ e.settings.team.reference = none ∧
    e.recalls (positioned 1000) = false ∧
    (e.perform (positioned 1000)).1.situation.team ≠ {} := by
  intro e
  have hLeft : (e.perform (positioned 1000)).1.situation.team.ownCode.isSome = true := by
    decide +kernel
  refine ⟨fun _ _ _ _ => rfl, rfl, by decide +kernel, fun hEmpty => ?_⟩
  rw [hEmpty] at hLeft
  cases hLeft

/-- If the mate's code counts as current after the tick, it is that of the tick's sample, seen from
the reference that the tick has resolved. -/
def PeerCodeOfSample (e : Engine Memory) (sample : Sample) (force : Bool) : Prop :=
  let shown := (e.perform (.tick sample force)).1.situation.team
  shown.peerCodeCurrent = true → ∃ reference code,
    e.usedReference sample force = some reference ∧
    Team.codeOfMate? e.settings.team sample reference = some code ∧ shown.peerCode = some code

/-- Which peer codes are marked as current. Over instruments that do not write the team group, after
a tick that brings no snapshot back, a code that is marked as current is from the tick's sample,
unless it was marked before and the tick leaves it alone: it has a waypoint named that the store
does not have, or none is named and no lookup is remembered either. -/
theorem peerCode_tick_ofSample_iff (i : Instruments Memory) (m : Memory) (settings : Settings)
    (cadence : Cadence) (waypoints : WaypointSource) (past : List Operation) (sample : Sample)
    (force : Bool) (hSpares : i.Spares Situation.team) :
    let start := powerUp i m settings cadence waypoints
    let e := start.run past
    let named := e.settings.team.reference
    e.recalls (.tick sample force) = false →
      (e.PeerCodeOfSample sample force ↔
        (e.situation.team.peerCodeCurrent = true →
          named.bind e.waypoints ≠ none ∨ (named = none ∧ start.LatestTick past Names))) := by
  intro start e named hKept
  have hInstruments : e.instruments.Spares Situation.team := by
    simpa [e, start, powerUp] using hSpares
  have hStart : start.tracker.reference = .unset :=
    reference_powerUp i m settings cadence waypoints
  have hCoherent : e.Coherent := (coherent_powerUp i m settings cadence waypoints).run past
  have hUsed : e.usedReference sample force = (named.bind e.waypoints).map Waypoint.location := by
    rw [usedReference_eq]
    exact Team.Reference.location_resolve hCoherent named _
  have hExpired : (e.situation.expire sample.clock).team.peerCodeCurrent =
      e.situation.team.peerCodeCurrent := by
    rw [Situation.team_expire_eq]
  have hSet : start.LatestTick past Names ↔ e.tracker.reference.isSet = true :=
    (isSet_run_iff hStart past).symm
  unfold PeerCodeOfSample
  dsimp only
  rw [hUsed, hSet]
  cases hNamed : named with
  | none =>
      rw [team_tick_unnamed hInstruments hNamed hKept]
      cases hSome : e.tracker.reference.isSet <;> simp [hExpired]
  | some id =>
      rw [(ownCode_tick hInstruments hCoherent hNamed hKept).2]
      obtain ⟨hMissing, hFound⟩ := Team.peerCode_compute e.tracker.ownCodeClock e.cadence.teamCode
        ⟨sample, e.settings⟩ ((e.waypoints id).map Waypoint.location)
        (e.situation.expire sample.clock).team
      cases hStore : e.waypoints id with
      | none =>
          simp only [hStore, Option.map_none] at hMissing
          simp [hStore, hMissing, hExpired]
      | some w =>
          simp only [hStore, Option.map_some] at hFound
          have hCode := fun hCurrent => hFound hCurrent w.location rfl
          simpa [hStore] using hCode

/-- The settings of a pilot who has named a waypoint and follows a contact. -/
def following (id : WaypointId) : Settings :=
  { team := { reference := some id, flarm := some ⟨1⟩ } }

def sighting (clock : Stamp) (location : Geo.Point) : Sample :=
  { clock := clock, traffic := ⟨[⟨⟨1⟩, some location⟩], by simp [maxTraffic]⟩ }

/-- A contact that moves is followed: its code was current before the tick and is of its sample. -/
theorem movedContact_peerCode_ofSample :
    let e := (powerUp Instruments.none () (following ⟨7⟩) {} homeOnly).run
      [.tick (sighting 0 ⟨47.6, 11.25⟩) false]
    let sample := sighting 1000 ⟨47.7, 11.25⟩
    Instruments.none.Spares Situation.team ∧ e.recalls (.tick sample false) = false ∧
    e.situation.team.peerCodeCurrent = true ∧
    (e.perform (.tick sample false)).1.situation.team.peerCodeCurrent = true ∧
    e.PeerCodeOfSample sample false := by
  intro e sample
  have hSpares : Instruments.none.Spares Situation.team := fun _ _ _ _ => rfl
  have hKept : e.recalls (.tick sample false) = false := by decide +kernel
  have hFresh : e.PeerCodeOfSample sample false :=
    (peerCode_tick_ofSample_iff Instruments.none () (following ⟨7⟩) {} homeOnly
      [.tick (sighting 0 ⟨47.6, 11.25⟩) false] sample false hSpares hKept).mpr
        fun _ => .inl (Option.isSome_iff_ne_none.mp (by decide +kernel))
  exact ⟨hSpares, hKept, by decide +kernel, by decide +kernel, hFresh⟩

/-- A contact is lost when the pilot has named a waypoint that the store does not have, and nothing
marks its code. -/
theorem lostContact_peerCode_not_ofSample :
    let e := (powerUp Instruments.none () (following ⟨7⟩) {} homeOnly).run
      [.tick (sighting 0 ⟨47.6, 11.25⟩) false, .setSettings (following ⟨9⟩)]
    let sample : Sample := { clock := 1000 }
    Instruments.none.Spares Situation.team ∧ e.recalls (.tick sample false) = false ∧
    (e.perform (.tick sample false)).1.situation.team.peerCodeCurrent = true ∧
    ¬ e.PeerCodeOfSample sample false := by
  intro e sample
  have hMarked : (e.perform (.tick sample false)).1.situation.team.peerCodeCurrent = true := by
    decide +kernel
  refine ⟨fun _ _ _ _ => rfl, by decide +kernel, hMarked, fun hFresh => ?_⟩
  obtain ⟨reference, -, hResolved, -⟩ := hFresh hMarked
  have hNone : (e.usedReference sample false).isNone = true := by decide +kernel
  rw [hResolved] at hNone
  cases hNone

end Soaring.Engine

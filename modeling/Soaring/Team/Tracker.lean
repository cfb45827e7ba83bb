import Soaring.Clock.Period
import Soaring.Journal

/-!
Team tracking. Both team codes are relative to a reference waypoint that the settings name. Its
location is looked up once and kept until another waypoint is named or the store is replaced; a
waypoint that is missing is looked up on every tick, with one warning.
-/
namespace Soaring.Team

/-- The outcome of the last lookup of the reference. -/
inductive Reference where
  | unset
  | resolved (id : WaypointId) (location : Geo.Point)
  | missing (id : WaypointId)

def Reference.isMissing (r : Reference) (id : WaypointId) : Bool :=
  match r with
  | missing other => other == id
  | _ => false

/-- What tracking keeps from tick to tick. -/
structure Tracker where
  reference : Reference := .unset
  /-- The throttle of the own code. -/
  ownCodeClock : PeriodClock := .unset

/-- What the resolution of the reference leads to. -/
structure Resolution where
  reference : Reference
  team : TeamView
  /-- Where the reference is, if it is known. -/
  location : Option Geo.Point
  /-- The lookup that was made and the note on it. -/
  entries : List Entry

namespace Tracker

/-- Drops the reference, so that the next tick looks it up. -/
def forgetReference (t : Tracker) : Tracker := { t with reference := .unset }

/-- Forgets the throttle, so that the next position gives an own code. -/
def resetThrottle (t : Tracker) : Tracker := { t with ownCodeClock := .unset }

end Tracker

/-- Without a reference, whatever is known of the team is forgotten, but only if there was a
reference before. -/
def Reference.release (r : Reference) (team : TeamView) : Resolution :=
  { reference := .unset
    team := match r with
      | .unset => team
      | _ => {}
    location := none
    entries := [] }

/-- Looks a reference up in the store. -/
def Reference.lookup (r : Reference) (id : WaypointId) (source : WaypointSource)
    (team : TeamView) : Resolution :=
  match source id with
  | some waypoint =>
    { reference := .resolved id waypoint.location
      team := { team with reference := some waypoint.location }
      location := some waypoint.location
      entries := [.lookup id, .note (.referenceResolved id)] }
  | none =>
    { reference := .missing id
      team := { team with reference := none, mateAvailable := false }
      location := none
      entries := .lookup id :: if r.isMissing id then [] else [.note (.referenceNotFound id)] }

/-- Finds the reference that the settings name: from memory if it was found before, else in the
store. -/
def Reference.resolve (r : Reference) (named : Option WaypointId) (source : WaypointSource)
    (team : TeamView) : Resolution :=
  match named with
  | none => r.release team
  | some id =>
    match r with
    | .resolved known location =>
      if known = id then
        { reference := r
          team := { team with reference := some location }
          location := some location
          entries := [] }
      else r.lookup id source team
    | _ => r.lookup id source team

/-- Computes the own code, at most once per interval. Without an own position nothing happens and
the throttle is not used up. -/
def updateOwnCode (clock : PeriodClock) (interval : Nat) (sample : Sample)
    (reference : Geo.Point) (team : TeamView) : PeriodClock × TeamView :=
  match sample.location with
  | none => (clock, team)
  | some own =>
    match clock.check sample.clock interval with
    | (clock, false) => (clock, team)
    | (clock, true) =>
      (clock, { team with
        ownCode := some (.ofPosition reference own)
        ownCodeAvailable := .updatedAt sample.clock })

/-- Places the team mate, and takes the way to it if the own position is known. -/
def placeMate (sample : Sample) (mate : Geo.Point) (team : TeamView) : TeamView :=
  let course := sample.location.map fun own => own.courseTo mate
  { team with
    mateLocation := some mate
    mateCourse := course
    mateAvailable := course.isSome }

/-- Locates the team mate: by its contact if one is configured, else by the typed code. A contact
that is lost leaves the last result, marked as not current. -/
def updateMate (settings : TeamSettings) (sample : Sample) (reference : Geo.Point)
    (team : TeamView) : TeamView :=
  match settings.flarm, settings.code with
  | some id, _ =>
    match (sample.traffic.find? id).bind Contact.location with
    | none => { team with peerCodeCurrent := false }
    | some mate => placeMate sample mate
        { team with peerCode := some (.ofPosition reference mate), peerCodeCurrent := true }
  | none, some code =>
    placeMate sample (code.location reference)
      { team with peerCode := some code, peerCodeCurrent := true }
  | none, none => { team.clearMate with mateLocation := none, mateCourse := none }

structure Tracking where
  tracker : Tracker
  team : TeamView
  entries : List Entry

/-- The team computations of a tick. They are skipped when the reference is not known. -/
def Tracker.track (t : Tracker) (interval : Nat) (feed : Feed) (source : WaypointSource)
    (team : TeamView) : Tracking :=
  let settings := feed.settings.team
  let found := t.reference.resolve settings.reference source team
  match found.location with
  | none =>
    { tracker := { t with reference := found.reference }
      team := found.team
      entries := found.entries }
  | some reference =>
    let (clock, team) := updateOwnCode t.ownCodeClock interval feed.sample reference found.team
    { tracker := { reference := found.reference, ownCodeClock := clock }
      team := updateMate settings feed.sample reference team
      entries := found.entries }

end Soaring.Team

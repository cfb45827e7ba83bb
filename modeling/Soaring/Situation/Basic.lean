import Soaring.Situation.Air
import Soaring.Situation.Display
import Soaring.Situation.Mate
import Soaring.Situation.Progress
import Soaring.Situation.Trace

/-!
The situation: everything that has been worked out from the samples so far, in groups that are
written by different parts of the instrument.
-/
namespace Soaring

inductive Group where
  | localTime
  | flight
  | climb
  | circling
  | wind
  | atmosphere
  | terrain
  | team
  | task
  | orderedTask
  | workingBand
  | varioScale
  | fuel
  | trace
  | warnings
  | wave
  deriving DecidableEq

namespace Group

def all : List Group :=
  [.localTime, .flight, .climb, .circling, .wind, .atmosphere, .terrain, .team, .task,
    .orderedTask, .workingBand, .varioScale, .fuel, .trace, .warnings, .wave]

/-- The groups that describe the way of flying and not the surroundings. -/
def statistics : List Group := [.climb, .circling, .wave, .trace]

/-- The groups that, besides the statistics, belong to one flight. Wind, atmosphere, terrain and
team outlast it. -/
def ofFlight : List Group := [.flight, .task, .orderedTask, .fuel]

end Group

/-- All derived groups. -/
structure Situation where
  localTime : Calendar.DateTime := .invalid
  flight : Flight := {}
  climb : Climb := {}
  circling : Circling := {}
  wind : Wind := {}
  atmosphere : Atmosphere := {}
  terrain : Terrain := {}
  team : TeamView := {}
  /-- The active task. -/
  task : TaskProgress := {}
  /-- The ordered task. -/
  orderedTask : TaskProgress := {}
  workingBand : WorkingBand := {}
  varioScale : VarioScale := {}
  fuel : Fuel := {}
  trace : Trace := .empty
  warnings : AirspaceWarnings := {}
  wave : Wave := {}
  deriving BEq

namespace Situation

/-- Nothing is known. -/
def initial : Situation := {}

def clear (s : Situation) : Group → Situation
  | .localTime => { s with localTime := .invalid }
  | .flight => { s with flight := {} }
  | .climb => { s with climb := {} }
  | .circling => { s with circling := {} }
  | .wind => { s with wind := {} }
  | .atmosphere => { s with atmosphere := {} }
  | .terrain => { s with terrain := {} }
  | .team => { s with team := {} }
  | .task => { s with task := {} }
  | .orderedTask => { s with orderedTask := {} }
  | .workingBand => { s with workingBand := {} }
  | .varioScale => { s with varioScale := {} }
  | .fuel => { s with fuel := {} }
  | .trace => { s with trace := .empty }
  | .warnings => { s with warnings := {} }
  | .wave => { s with wave := {} }

def clearAll (s : Situation) (groups : List Group) : Situation := groups.foldl clear s

def clearStatistics (s : Situation) : Situation := s.clearAll Group.statistics

/-- Forgets the groups that belong to one flight. -/
def clearFlight (s : Situation) : Situation := (s.clearAll Group.ofFlight).clearStatistics

/-- Forgets the groups that belong to one flight or, with `full`, every group. -/
def reset (s : Situation) (full : Bool) : Situation :=
  if full then s.clearAll Group.all else s.clearFlight

def startTask (s : Situation) (now : Stamp) : Situation :=
  { s with circling := s.circling.startTask now }

/-- The local time of a sample; there is none without GPS time. -/
def localTimeOf (sample : Sample) (settings : Settings) : Calendar.DateTime :=
  if sample.timeAvailable then sample.utc.toLocal settings.utcOffset.toInt else .invalid

end Situation

end Soaring

import Soaring.Record.Groups

/-!
The kinds of records that are written as JSON, with the type of their values and their layout.
-/
namespace Soaring.Record

inductive Kind where
  | date
  | timeOfDay
  | dateTime
  | point
  | course
  | gate
  | flarmId
  | waypointId
  | teamCode
  | event
  | contact
  | traffic
  | attitude
  | recorderStatus
  | sample
  | teamSettings
  | taskSettings
  | planeSettings
  | polarSettings
  | loggerSettings
  | settings
  | cadence
  | flight
  | climb
  | circling
  | windVector
  | wind
  | atmosphere
  | airspaceWarnings
  | wave
  | terrain
  | workingBand
  | varioScale
  | fuel
  | taskProgress
  | teamView
  | traceEntry
  deriving DecidableEq

namespace Kind

def Value : Kind → Type
  | date => Calendar.Date
  | timeOfDay => Calendar.TimeOfDay
  | dateTime => Calendar.DateTime
  | point => Geo.Point
  | course => Geo.Course
  | gate => Gate
  | flarmId => FlarmId
  | waypointId => WaypointId
  | teamCode => Team.Code
  | event => Event
  | contact => Contact
  | traffic => Traffic
  | attitude => Attitude
  | recorderStatus => RecorderStatus
  | sample => Sample
  | teamSettings => TeamSettings
  | taskSettings => TaskSettings
  | planeSettings => PlaneSettings
  | polarSettings => PolarSettings
  | loggerSettings => LoggerSettings
  | settings => Settings
  | cadence => Cadence
  | flight => Flight
  | climb => Climb
  | circling => Circling
  | windVector => WindVector
  | wind => Wind
  | atmosphere => Atmosphere
  | airspaceWarnings => AirspaceWarnings
  | wave => Wave
  | terrain => Terrain
  | workingBand => WorkingBand
  | varioScale => VarioScale
  | fuel => Fuel
  | taskProgress => TaskProgress
  | teamView => TeamView
  | traceEntry => TraceEntry

def layout : (kind : Kind) → Layout kind.Value
  | date => .date
  | timeOfDay => .timeOfDay
  | dateTime => .dateTime
  | point => .point
  | course => .course
  | gate => .gate
  | flarmId => .flarmId
  | waypointId => .waypointId
  | teamCode => .teamCode
  | event => .event
  | contact => .contact
  | traffic => .traffic
  | attitude => .attitude
  | recorderStatus => .recorderStatus
  | sample => .sample
  | teamSettings => .teamSettings
  | taskSettings => .taskSettings
  | planeSettings => .planeSettings
  | polarSettings => .polarSettings
  | loggerSettings => .loggerSettings
  | settings => .settings
  | cadence => .cadence
  | flight => .flight
  | climb => .climb
  | circling => .circling
  | windVector => .windVector
  | wind => .wind
  | atmosphere => .atmosphere
  | airspaceWarnings => .airspaceWarnings
  | wave => .wave
  | terrain => .terrain
  | workingBand => .workingBand
  | varioScale => .varioScale
  | fuel => .fuel
  | taskProgress => .taskProgress
  | teamView => .teamView
  | traceEntry => .traceEntry

end Kind

end Soaring.Record

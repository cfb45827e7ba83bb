import Soaring.Calendar.Day
import Soaring.Calendar.TimeOfDay

/-!
Date and time as a receiver reports them, and their change from UTC to local time. A receiver
without an almanac has a good time of day and a meaningless date, so the two are judged apart and a
bad date does not cost the local time.
-/
namespace Soaring.Calendar

/-- Year, month and day as reported, not checked. -/
structure Date where
  year : UInt16
  month : UInt8
  day : UInt8
  deriving DecidableEq, Inhabited

namespace Date

def unknown : Date := ⟨0, 0, 0⟩

/-- A rough check of each field on its own; the day need not exist. -/
def isPlausible (d : Date) : Bool :=
  1800 ≤ d.year && d.year ≤ 2500 && 1 ≤ d.month && d.month ≤ 12 && 1 ≤ d.day && d.day ≤ 31

def toDay (d : Date) : Day := ⟨d.year.toNat, d.month.toNat, d.day.toNat⟩

/-- A calendar day in the fields of a date; the year keeps its last sixteen binary digits. -/
def ofDay (d : Day) : Date :=
  { year := (d.year % UInt16.size).toNat.toUInt16
    month := d.month.toUInt8
    day := d.day.toUInt8 }

end Date

/-- A reported date and time of day, with a mark that they were reported at all. -/
structure DateTime where
  date : Date
  time : TimeOfDay
  valid : Bool
  deriving DecidableEq, Inhabited

namespace DateTime

/-- Nothing was reported. -/
def invalid : DateTime := ⟨.unknown, .zero, false⟩

def isDatePlausible (t : DateTime) : Bool := t.valid && t.date.isPlausible

def isTimePlausible (t : DateTime) : Bool := t.valid && t.time.isPlausible

def isPlausible (t : DateTime) : Bool := t.isDatePlausible && t.isTimePlausible

/-- The seconds since the start of day zero. -/
def instant (t : DateTime) : Int := secondsPerDay * t.date.toDay.number + t.time.toSecond

def ofInstant (seconds : Int) : DateTime :=
  { date := .ofDay (.ofNumber (seconds / secondsPerDay))
    time := .ofSecond seconds
    valid := true }

/-- Local time, some minutes after UTC. If the date is no plausible day of the calendar only the
time of day is shifted, and without a time of day there is no local time. -/
def toLocal (t : DateTime) (minutes : Int) : DateTime :=
  if !t.isTimePlausible then invalid
  else if t.date.isPlausible && t.date.toDay.isReal then
    ofInstant (t.instant + minutes * secondsPerMinute)
  else { date := .unknown, time := t.time.shift minutes, valid := true }

end DateTime

end Soaring.Calendar

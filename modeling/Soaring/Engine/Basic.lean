import Soaring.Clock.Delta
import Soaring.Team.Tracker

/-!
The engine's state and the elementary effects that operations are made of. Each effect is entered
into the journal, which is emptied when an operation starts.
-/
namespace Soaring

/-- The state of an engine over instruments with the given memory. -/
structure Engine (Memory : Type) where
  instruments : Instruments Memory
  memory : Memory
  settings : Settings
  cadence : Cadence
  waypoints : WaypointSource
  /-- The last sample, kept for the idle pass. -/
  sample : Sample := {}
  situation : Situation := .initial
  /-- The situation as it was at the finish line. -/
  finish : Option Situation := none
  tracker : Team.Tracker := {}
  idleClock : PeriodClock := .unset
  traceClock : DeltaClock := .unset
  events : EventQueue := .empty
  /-- What the last operation did, or the current one has done so far. -/
  journal : List Entry := []

namespace Engine

def version : String := "0.1.0"

variable {Memory : Type}

/-- Starts an operation. -/
def openJournal (e : Engine Memory) : Engine Memory := { e with journal := [] }

def enter (e : Engine Memory) (entries : List Entry) : Engine Memory :=
  { e with journal := e.journal ++ entries }

def note (e : Engine Memory) (note : Note) : Engine Memory := e.enter [.note note]

/-- Lets the instruments change the situation. -/
def revise (e : Engine Memory) (revision : Revision) : Engine Memory :=
  let (situation, memory) := e.instruments.revise revision e.situation e.memory
  { e.enter [.call (.revision revision e.situation)] with situation := situation, memory := memory }

/-- Shows the instruments the situation. -/
def observe (e : Engine Memory) (observation : Observation) : Engine Memory :=
  { e.enter [.call (.observation observation e.situation)] with
    memory := e.instruments.observe observation e.situation e.memory }

/-- Takes the airspace warnings from the instruments. -/
def updateWarnings (e : Engine Memory) (feed : Feed) (exhaustive : Bool) : Engine Memory :=
  let (warnings, memory) := e.instruments.warn feed exhaustive e.situation e.memory
  { e.enter [.call (.warnings feed exhaustive e.situation)] with
    situation := { e.situation with warnings := warnings }
    memory := memory }

def notify (e : Engine Memory) (notice : Notice) : Engine Memory :=
  { e.enter [.call (.notice notice)] with memory := e.instruments.notify notice e.memory }

def statistics (e : Engine Memory) : Statistics := e.instruments.statistics e.memory

/-- Changes the situation by what the statistics say. -/
def applyStatistics (e : Engine Memory) (change : Statistics → Situation → Situation) :
    Engine Memory :=
  { e.enter [.call .statistics] with situation := change e.statistics e.situation }

/-- Puts an event into the queue, with a warning if another one is lost by that. -/
def record (e : Engine Memory) (event : Event) : Engine Memory :=
  let dropped := match e.events.overflow? with
    | some lost => [.note (.eventDropped lost)]
    | none => []
  { e.enter (dropped ++ [.event event]) with events := e.events.push event }

end Engine

end Soaring

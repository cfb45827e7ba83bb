import Soaring.Record.Basic

/-!
The layouts of samples and settings.
-/
namespace Soaring.Record.Layout

/-- A team code as a string of at most five bytes. A longer one is refused before it is read, so
white space around a code makes it too long. -/
def teamCode : Layout Team.Code :=
  .refined .text
    (fun text =>
      if text.utf8ByteSize ≤ Team.codeLength then (Team.Code.parse text.toList).toOption else none)
    (fun code => String.ofList code.text)
    fun code => by
      have size : (String.ofList code.text).utf8ByteSize ≤ Team.codeLength := by
        have bytes := Team.Code.byteCount_digits (code.bearing.digits ++ code.range.digits)
        rw [← Team.Code.text_eq, Team.Code.length_digits] at bytes
        exact Nat.le_of_eq (by rw [Text.utf8ByteSize_ofList, bytes])
      simp [size, Team.Code.parse_text, Except.toOption]

def contact : Layout Contact :=
  record (.cons "id" flarmId (.cons "location" (.optional point) .nil))
    (fun (id, location, _) => ⟨id, location⟩) (fun c => (c.id, c.location, ())) fun _ => rfl

/-- A list that is not longer than its store. Its keys need not differ. -/
def bounded {α : Type} (capacity : Nat) (inner : Layout α) : Layout (Bounded α capacity) :=
  .refined (.list inner)
    (fun items => if h : items.length ≤ capacity then some ⟨items, h⟩ else none) Bounded.items
    fun value => by simp [value.length_le]

def traffic : Layout Traffic :=
  record (.cons "contacts" (bounded maxTraffic contact) .nil) (fun (contacts, _) => contacts)
    (fun t => (t, ())) fun _ => rfl

def attitude : Layout Attitude :=
  record (.cons "bank_angle" (.optional .float) (.cons "pitch_angle" (.optional .float)
      (.cons "heading" (.optional .float) .nil)))
    (fun (bank, pitch, heading, _) => ⟨bank, pitch, heading⟩)
    (fun a => (a.bank, a.pitch, a.heading, ())) fun _ => rfl

def recorderStatus : Layout RecorderStatus :=
  record (.cons "connected" .boolean (.cons "recording" .boolean .nil))
    (fun (connected, recording, _) => ⟨connected, recording⟩)
    (fun r => (r.connected, r.recording, ())) fun _ => rfl

def sample : Layout Sample :=
  record (.cons "clock" stamp (.cons "time" (.optional stamp) (.cons "date_time_utc" dateTime
      (.cons "location" (.optional point) (.cons "nav_altitude" (.optional .float)
      (.cons "brutto_vario" (.optional .float) (.cons "netto_vario" (.optional .float)
      (.cons "attitude" attitude (.cons "traffic" traffic
      (.cons "flight_recorder" recorderStatus .nil))))))))))
    (fun (clock, time, utc, location, altitude, brutto, netto, attitude, traffic, recorder, _) =>
      ⟨clock, time, utc, location, altitude, brutto, netto, attitude, traffic, recorder⟩)
    (fun s => (s.clock, s.time, s.utc, s.location, s.altitude, s.bruttoVario, s.nettoVario,
      s.attitude, s.traffic, s.recorder, ()))
    fun _ => rfl

def teamSettings : Layout TeamSettings :=
  record (.cons "reference_waypoint" (.optional waypointId) (.cons "flarm_id" (.optional flarmId)
      (.cons "team_code" (.optional teamCode) .nil)))
    (fun (reference, flarm, code, _) => ⟨reference, flarm, code⟩)
    (fun t => (t.reference, t.flarm, t.code, ())) fun _ => rfl

def taskSettings : Layout TaskSettings :=
  record (.cons "safety_height_arrival" .float .nil) (fun (height, _) => ⟨height⟩)
    (fun t => (t.safetyHeight, ())) fun _ => rfl

def planeSettings : Layout PlaneSettings :=
  record (.cons "fuel_onboard" .float (.cons "fuel_consumption" .float .nil))
    (fun (onboard, consumption, _) => ⟨onboard, consumption⟩)
    (fun p => (p.fuelOnboard, p.fuelConsumption, ())) fun _ => rfl

def polarSettings : Layout PolarSettings :=
  record (.cons "mc" .float (.cons "sink_at_best_ld" .float .nil))
    (fun (macCready, sink, _) => ⟨macCready, sink⟩)
    (fun p => (p.macCready, p.bestGlideSink, ())) fun _ => rfl

def loggerSettings : Layout LoggerSettings :=
  record (.cons "time_step_cruise" word16 (.cons "time_step_circling" word16 .nil))
    (fun (cruise, circling, _) => ⟨cruise, circling⟩)
    (fun l => (l.cruiseStep, l.circlingStep, ())) fun _ => rfl

def settings : Layout Settings :=
  record (.cons "utc_offset_minutes" signedWord32 (.cons "team_code" teamSettings
      (.cons "task" taskSettings (.cons "plane" planeSettings (.cons "polar" polarSettings
      (.cons "logger" loggerSettings .nil))))))
    (fun (utcOffset, team, task, plane, polar, logger, _) =>
      ⟨utcOffset, team, task, plane, polar, logger⟩)
    (fun s => (s.utcOffset, s.team, s.task, s.plane, s.polar, s.logger, ())) fun _ => rfl

def cadence : Layout Cadence :=
  record (.cons "idle_interval_ms" .natural (.cons "team_code_interval_ms" .natural
      (.cons "trace_min_delta_ms" .natural .nil)))
    (fun (idle, teamCode, trace, _) => ⟨idle, teamCode, trace⟩)
    (fun c => (c.idle, c.teamCode, c.trace, ())) fun _ => rfl

end Soaring.Record.Layout

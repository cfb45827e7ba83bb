import Soaring.Record.Inputs

/-!
The layouts of the groups of the situation.
-/
namespace Soaring.Record.Layout

def flight : Layout Flight :=
  record (.cons "flying" .boolean (.cons "on_ground" .boolean (.cons "time_in_flight_ms" .natural
      (.cons "time_on_ground_ms" .natural (.cons "takeoff_time" (.optional stamp)
      (.cons "takeoff_location" (.optional point) (.cons "landing_time" (.optional stamp)
      (.cons "landing_location" (.optional point) .nil))))))))
    (fun (flying, onGround, inFlight, grounded, takeoffTime, takeoffLocation, landingTime,
        landingLocation, _) =>
      ⟨flying, onGround, inFlight, grounded, takeoffTime, takeoffLocation, landingTime,
        landingLocation⟩)
    (fun f => (f.flying, f.onGround, f.timeInFlight, f.timeOnGround, f.takeoffTime,
      f.takeoffLocation, f.landingTime, f.landingLocation, ()))
    fun _ => rfl

def climb : Layout Climb :=
  record (.cons "gps_vario" .float (.cons "average" .float (.cons "current_thermal_average" .float
      (.cons "current_thermal_gain" .float (.cons "available" gate .nil)))))
    (fun (vario, average, thermalAverage, thermalGain, available, _) =>
      ⟨vario, average, thermalAverage, thermalGain, available⟩)
    (fun c => (c.gpsVario, c.average, c.thermalAverage, c.thermalGain, c.available, ()))
    fun _ => rfl

def circling : Layout Circling :=
  record (.cons "circling" .boolean (.cons "turning" .boolean (.cons "turn_rate" .float
      (.cons "climb_start_time" (.optional stamp)
      (.cons "cruise_start_time" (.optional stamp) .nil)))))
    (fun (circling, turning, turnRate, climbStart, cruiseStart, _) =>
      ⟨circling, turning, turnRate, climbStart, cruiseStart⟩)
    (fun c => (c.circling, c.turning, c.turnRate, c.climbStart, c.cruiseStart, ())) fun _ => rfl

def windVector : Layout WindVector :=
  record (.cons "speed" .float (.cons "bearing" .float .nil))
    (fun (speed, bearing, _) => ⟨speed, bearing⟩) (fun w => (w.speed, w.bearing, ())) fun _ => rfl

def wind : Layout Wind :=
  record (.cons "estimated_wind" windVector (.cons "estimated_wind_available" gate
      (.cons "wind" windVector (.cons "wind_available" gate (.cons "head_wind" .float
      (.cons "head_wind_available" gate .nil))))))
    (fun (estimate, estimateAvailable, wind, windAvailable, headWind, headWindAvailable, _) =>
      ⟨estimate, estimateAvailable, wind, windAvailable, headWind, headWindAvailable⟩)
    (fun w => (w.estimate, w.estimateAvailable, w.wind, w.windAvailable, w.headWind,
      w.headWindAvailable, ()))
    fun _ => rfl

def atmosphere : Layout Atmosphere :=
  record (.cons "pressure_qnh" .float (.cons "pressure_available" gate (.cons "sun_azimuth" .float
      (.cons "sun_data_available" gate (.cons "auto_mac_cready" .float
      (.cons "auto_mac_cready_available" gate .nil))))))
    (fun (pressure, pressureAvailable, sun, sunAvailable, macCready, macCreadyAvailable, _) =>
      ⟨pressure, pressureAvailable, sun, sunAvailable, macCready, macCreadyAvailable⟩)
    (fun a => (a.pressure, a.pressureAvailable, a.sunAzimuth, a.sunAvailable, a.autoMacCready,
      a.autoMacCreadyAvailable, ()))
    fun _ => rfl

def airspaceWarnings : Layout AirspaceWarnings :=
  record (.cons "active" word16 (.cons "acknowledged" word16 (.cons "latest" gate .nil)))
    (fun (active, acknowledged, latest, _) => ⟨active, acknowledged, latest⟩)
    (fun w => (w.active, w.acknowledged, w.latest, ())) fun _ => rfl

def wave : Layout Wave :=
  record (.cons "waves" word8 (.cons "best_lift" .float (.cons "available" gate .nil)))
    (fun (count, bestLift, available, _) => ⟨count, bestLift, available⟩)
    (fun w => (w.count, w.bestLift, w.available, ())) fun _ => rfl

def terrain : Layout Terrain :=
  record (.cons "terrain_valid" .boolean (.cons "terrain_base_valid" .boolean
      (.cons "altitude_agl_valid" .boolean (.cons "terrain_altitude" .float
      (.cons "terrain_base" .float (.cons "altitude_agl" .float
      (.cons "terrain_warning_location" (.optional point) .nil)))))))
    (fun (altitudeValid, baseValid, heightValid, altitude, base, height, warningLocation, _) =>
      ⟨altitudeValid, baseValid, heightValid, altitude, base, height, warningLocation⟩)
    (fun t => (t.altitudeValid, t.baseValid, t.heightValid, t.altitude, t.base, t.height,
      t.warningLocation, ()))
    fun _ => rfl

def workingBand : Layout WorkingBand :=
  record (.cons "height_min_working" .float (.cons "height_max_working" .float
      (.cons "height_fraction_working" .float .nil)))
    (fun (low, high, fraction, _) => ⟨low, high, fraction⟩)
    (fun b => (b.low, b.high, b.fraction, ())) fun _ => rfl

def varioScale : Layout VarioScale :=
  record (.cons "positive_bound" .float (.cons "negative_bound" .float .nil))
    (fun (positive, negative, _) => ⟨positive, negative⟩)
    (fun s => (s.positive, s.negative, ())) fun _ => rfl

def fuel : Layout Fuel :=
  record (.cons "burn_time_remaining" duration (.cons "available" gate .nil))
    (fun (burnTime, available, _) => ⟨burnTime, available⟩)
    (fun f => (f.burnTime, f.available, ())) fun _ => rfl

def taskProgress : Layout TaskProgress :=
  record (.cons "task_valid" .boolean (.cons "task_started" .boolean
      (.cons "task_finished" .boolean (.cons "start_time" (.optional stamp)
      (.cons "active_index" .natural (.cons "distance_remaining" (.optional .float)
      (.cons "distance_travelled" (.optional .float)
      (.cons "speed_average" (.optional .float) .nil))))))))
    (fun (valid, started, finished, startTime, activeIndex, remaining, travelled, speed, _) =>
      ⟨valid, started, finished, startTime, activeIndex, remaining, travelled, speed⟩)
    (fun t => (t.valid, t.started, t.finished, t.startTime, t.activeIndex, t.distanceRemaining,
      t.distanceTravelled, t.averageSpeed, ()))
    fun _ => rfl

def teamView : Layout TeamView :=
  record (.cons "teammate_available" .boolean (.cons "reference_location" (.optional point)
      (.cons "teammate_location" (.optional point) (.cons "teammate_vector" (.optional course)
      (.cons "own_code" (.optional teamCode) (.cons "own_code_available" gate
      (.cons "peer_code" (.optional teamCode) (.cons "peer_code_is_current" .boolean .nil))))))))
    (fun (mateAvailable, reference, mateLocation, mateCourse, ownCode, ownCodeAvailable, peerCode,
        peerCodeCurrent, _) =>
      ⟨mateAvailable, reference, mateLocation, mateCourse, ownCode, ownCodeAvailable, peerCode,
        peerCodeCurrent⟩)
    (fun t => (t.mateAvailable, t.reference, t.mateLocation, t.mateCourse, t.ownCode,
      t.ownCodeAvailable, t.peerCode, t.peerCodeCurrent, ()))
    fun _ => rfl

def traceEntry : Layout TraceEntry :=
  record (.cons "time" stamp (.cons "brutto_vario" (.optional .float)
      (.cons "netto_vario" (.optional .float) (.cons "altitude" (.optional .float) .nil))))
    (fun (time, brutto, netto, altitude, _) => ⟨time, brutto, netto, altitude⟩)
    (fun e => (e.time, e.bruttoVario, e.nettoVario, e.altitude, ())) fun _ => rfl

end Soaring.Record.Layout

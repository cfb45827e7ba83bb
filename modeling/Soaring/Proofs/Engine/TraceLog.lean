import Soaring.Proofs.Engine.Invariants
import Soaring.Proofs.Engine.TraceOrder

/-!
The trace history against a log of the samples that forgets nothing but what a warp of GPS time
makes void. As long as no snapshot comes back, the trace clock stands at the anchor of the log, and
the history shows the end of the log, as much of it as the ring has slots for.
-/
namespace Soaring

/-- A log of samples in GPS time. -/
structure TraceLog where
  /-- The time that the next sample is measured against. -/
  anchor : Option Stamp := none
  /-- All records since the log was last discarded, oldest first. -/
  records : List TraceEntry := []

namespace TraceLog

/-- The record of a sample. An altitude that is no finite number is left out. -/
def record (s : Sample) (time : Stamp) : TraceEntry :=
  { time := time
    bruttoVario := s.bruttoVario
    nettoVario := s.nettoVario
    altitude := match s.altitude with
      | some altitude => if altitude.isFinite then some altitude else none
      | none => none }

/-- Takes in a sample with GPS time. The first time is the anchor. A time before the anchor replaces
it and discards all records, one that follows it by the interval replaces it and is recorded, and
any other time does nothing. -/
def feed (interval : Nat) (log : TraceLog) (s : Sample) : TraceLog :=
  match s.time, log.anchor with
  | none, _ => log
  | some time, none => { log with anchor := some time }
  | some time, some anchor =>
    if time < anchor then { anchor := some time, records := [] }
    else if anchor + interval ≤ time then
      { anchor := some time, records := log.records ++ [record s time] }
    else log

def ofSamples (interval : Nat) (samples : List Sample) : TraceLog :=
  samples.foldl (feed interval) {}

end TraceLog

/-- The samples that a run of operations has fed since its last reset, in order. -/
def samplesSinceReset (operations : List Operation) : List Sample :=
  operations.foldl (fun samples operation => match operation with
    | .tick sample _ => samples ++ [sample]
    | .resetFlight _ => []
    | _ => samples) []

namespace Engine

variable {Memory : Type}

/-- The trace clock and the history are those of the log. -/
structure Logs (e : Engine Memory) (log : TraceLog) : Prop where
  anchor : e.traceClock.last = log.anchor
  formed : e.situation.trace.WellFormed
  records : e.situation.trace.toList = log.records.rtake traceSize

theorem record_eq_ofSample (s : Sample) (time : Stamp) :
    TraceLog.record s time = .ofSample s time := by
  unfold TraceLog.record TraceEntry.ofSample Sample.usableAltitude
  cases s.altitude with
  | none => rfl
  | some altitude => simp only [Option.filter_some]

/-- The log takes in a time as the trace clock does, and keeps its records as the clock says. -/
theorem feed_eq_step (interval : Nat) (log : TraceLog) {s : Sample} {time : Stamp}
    (hTime : s.time = some time) :
    let fed := DeltaClock.feed ⟨log.anchor⟩ time interval
    log.feed interval s =
      { anchor := fed.1.last
        records := match fed.2 with
          | .pending => log.records
          | .elapsed _ => log.records ++ [.ofSample s time]
          | .warp => [] } := by
  obtain ⟨anchor?, records⟩ := log
  rcases DeltaClock.feed_cases ⟨anchor?⟩ time interval with
    ⟨rfl, hFirst⟩ | ⟨anchor, rfl, ⟨hBack, hWarp⟩ | ⟨hPast, hSoon, hHeld⟩ | ⟨hSpan, hElapsed⟩⟩
  · simp [TraceLog.feed, hTime, hFirst]
  · simp [TraceLog.feed, hTime, hWarp, hBack]
  · have hShort : ¬ anchor + interval ≤ time := by grind
    simp [TraceLog.feed, hTime, hHeld, Nat.not_lt.mpr hPast, hShort]
  · have hForward : ¬ time < anchor := Nat.not_lt.mpr (Nat.le_of_add_right_le hSpan)
    simp [TraceLog.feed, hTime, hElapsed, hForward, hSpan, record_eq_ofSample]

/-- The trace clock and the history take in a sample as the log does. -/
theorem Logs.feed {e : Engine Memory} {log : TraceLog} (h : e.Logs log) (sample : Sample) :
    let step := e.traceStep sample
    let trace := traceAfter e.situation.trace sample step.2
    let fed := log.feed e.cadence.trace sample
    step.1.last = fed.anchor ∧ trace.WellFormed ∧
    trace.toList = fed.records.rtake traceSize := by
  intro step trace fed
  cases hTime : sample.time with
  | none =>
      have hStep : step = (e.traceClock, .pending) := by simp [step, traceStep, hTime]
      have hFed : fed = log := by simp [fed, TraceLog.feed, hTime]
      simp only [trace, hStep, hFed, traceAfter]
      exact ⟨h.anchor, h.formed, h.records⟩
  | some time =>
      have hClock : e.traceClock = ⟨log.anchor⟩ := congrArg DeltaClock.mk h.anchor
      have hStep : step = DeltaClock.feed ⟨log.anchor⟩ time e.cadence.trace := by
        simp [step, traceStep, hTime, hClock]
      have hFed := feed_eq_step e.cadence.trace log hTime
      rw [← hStep] at hFed
      simp only [fed, hFed]
      refine ⟨trivial, ?_⟩
      cases hKind : step.2 with
      | pending =>
          simp only [trace, hKind, traceAfter]
          exact ⟨h.formed, h.records⟩
      | elapsed span =>
          have hAppend : trace = e.situation.trace.push (.ofSample sample time) := by
            simp [trace, hKind, traceAfter, Trace.append, hTime]
          rw [hAppend]
          exact ⟨(h.formed.holds_push _).wellFormed, h.formed.toList_push_rtake h.records _⟩
      | warp =>
          have hEmpty : trace = .empty := by simp [trace, hKind, traceAfter]
          rw [hEmpty]
          exact ⟨Trace.wellFormed_empty, by simp [Trace.empty, Ring.toList_empty]⟩

/-- The log after an operation: a tick feeds it and a reset begins a new one. -/
def logAfter (interval : Nat) (log : TraceLog) : Operation → TraceLog
  | .tick sample _ => log.feed interval sample
  | .resetFlight _ => {}
  | _ => log

/-- An empty log is the log of an empty history. -/
theorem logs_of_empty {e : Engine Memory} (hClock : e.traceClock = .unset)
    (hTrace : e.situation.trace = .empty) : e.Logs {} := by
  refine ⟨by rw [hClock]; rfl, hTrace ▸ Trace.wellFormed_empty, ?_⟩
  rw [hTrace]
  simp [Trace.empty, Ring.toList_empty]

/-- An operation that brings back no snapshot leaves the history as that of the log. -/
theorem Logs.perform {e : Engine Memory} {log : TraceLog} (h : e.Logs log)
    (hSpares : e.instruments.Spares Situation.trace) {operation : Operation}
    (hKept : e.recalls operation = false) :
    (e.perform operation).1.Logs (logAfter e.cadence.trace log operation) := by
  have hOpen : e.openJournal.Logs log := ⟨h.anchor, h.formed, h.records⟩
  by_cases hQuiet : ∀ sample force, operation ≠ .tick sample force
  · rcases trace_perform_quiet hSpares hQuiet with
      ⟨hNoReset, hTrace, hClock, -⟩ | ⟨full, rfl, hTrace, hClock, -⟩ | ⟨rfl, hTrace, hClock, -⟩
    · have hLog : logAfter e.cadence.trace log operation = log := by
        cases operation with
        | tick sample force => exact absurd rfl (hQuiet sample force)
        | resetFlight full => exact absurd rfl (hNoReset full)
        | idlePass | startTask | enterZone | saveFinish | restoreFinish | setSettings
        | setWaypoints | drainEvents => rfl
      rw [hLog]
      exact ⟨hClock ▸ h.anchor, hTrace ▸ h.formed, hTrace ▸ h.records⟩
    · exact logs_of_empty hClock hTrace
    · have hNone : e.finish = none := by simpa [recalls] using hKept
      have hSame : e.recalled.trace = e.situation.trace := by simp [recalled, hNone]
      rw [hSame] at hTrace
      exact ⟨hClock ▸ h.anchor, hTrace ▸ h.formed, hTrace ▸ h.records⟩
  · push Not at hQuiet
    obtain ⟨sample, force, rfl⟩ := hQuiet
    obtain ⟨hAnchor, hForm, hRecords⟩ := hOpen.feed sample
    have hTrace : (e.perform (.tick sample force)).1.situation.trace =
        traceAfter e.situation.trace sample (e.openJournal.traceStep sample).2 := by
      rw [spared_tick hSpares hKept, (trace_derive (by simpa using hSpares) sample force).2]
      rfl
    have hClock : (e.perform (.tick sample force)).1.traceClock =
        (e.openJournal.traceStep sample).1 := by simp [Engine.perform]
    exact ⟨by rw [hClock]; exact hAnchor, by rw [hTrace]; exact hForm,
      by rw [hTrace]; exact hRecords⟩

/-- Ring and log take each operation alike, as long as no snapshot comes back. -/
theorem Logs.run {e : Engine Memory} {log : TraceLog} (h : e.Logs log)
    (hSpares : e.instruments.Spares Situation.trace) {operations : List Operation}
    (hKept : ∀ past operation, past ++ [operation] <+: operations →
      (e.run past).recalls operation = false) :
    (e.run operations).Logs (operations.foldl (logAfter e.cadence.trace) log) := by
  induction operations generalizing e log with
  | nil => exact h
  | cons operation rest ih =>
      rw [forall_step_cons] at hKept
      have hStep := h.perform hSpares hKept.1
      have hRest := ih hStep (by simpa using hSpares) hKept.2
      rwa [(perform_frame e operation).2] at hRest

/-- The log that follows the operations is the log of the samples since the last reset. -/
theorem foldl_logAfter (interval : Nat) (operations : List Operation) :
    operations.foldl (logAfter interval) {} =
      TraceLog.ofSamples interval (samplesSinceReset operations) := by
  induction operations using List.reverseRecOn with
  | nil => rfl
  | append_singleton past operation ih =>
      unfold samplesSinceReset at ih ⊢
      rw [List.foldl_append, List.foldl_append, ih]
      cases operation with
      | tick sample force => simp [logAfter, TraceLog.ofSamples]
      | resetFlight full => rfl
      | idlePass | startTask | enterZone | saveFinish | restoreFinish | setSettings
      | setWaypoints | drainEvents => rfl

/-- The trace history refines an unbounded log. Over instruments that do not write the history, and
in a run in which no operation brings back a snapshot, the history shows the last thirty records of
the log of the samples fed since the last reset, or all of them if there are fewer. -/
theorem trace_run_eq_log (i : Instruments Memory) (m : Memory) (settings : Settings)
    (cadence : Cadence) (waypoints : WaypointSource) (operations : List Operation)
    (hSpares : i.Spares Situation.trace)
    (hKept : ∀ past operation, past ++ [operation] <+: operations →
      ((powerUp i m settings cadence waypoints).run past).recalls operation = false) :
    let e := (powerUp i m settings cadence waypoints).run operations
    let records := (TraceLog.ofSamples cadence.trace (samplesSinceReset operations)).records
    e.situation.trace.toList = records.rtake 30 := by
  intro e records
  let start := powerUp i m settings cadence waypoints
  have hStart : start.instruments = i ∧ start.cadence = cadence := by simp [start, powerUp]
  have hTrace : start.situation.trace = .empty := by
    simp only [start, powerUp, record_frame, situation_resetFlight]
    exact hSpares.revise _ _ _
  have hEmpty : start.Logs {} := logs_of_empty (by simp [start, powerUp]) hTrace
  have hRun := hEmpty.run (by rwa [hStart.1]) hKept
  rw [hStart.2, foldl_logAfter] at hRun
  exact hRun.records

/-- A flight whose GPS time goes back before it lands on an unfinished task, and the beginning of
the next one, which is long enough for the history to lose its oldest records. -/
def twoFlights : List Operation :=
  [.tick { clock := 0 } false, .tick { clock := 1000, time := some 10000 } false,
    .tick { clock := 2000, time := some 10600 } false, .saveFinish,
    .tick { clock := 4000, time := some 5000 } false, .resetFlight false] ++
  (List.range 33).map fun k => .tick { clock := 5000, time := some (6000 + 500 * k) } false

theorem twoFlights_trace_eq_log :
    let i := Instruments.timed 4000 9000
    let cadence : Cadence := {}
    i.Spares Situation.trace ∧
    (∀ past operation, past ++ [operation] <+: twoFlights →
      ((powerUp i () {} cadence fun _ => none).run past).recalls operation = false) ∧
    ((powerUp i () {} cadence fun _ => none).run twoFlights).situation.trace.toList =
      (TraceLog.ofSamples cadence.trace (samplesSinceReset twoFlights)).records.rtake 30 ∧
    (((powerUp i () {} cadence fun _ => none).run twoFlights).situation.trace.toList.map
      TraceEntry.time) = (List.range 30).map (7500 + 500 * ·) := by
  intro i cadence
  have hSpares : i.Spares Situation.trace := by
    intro r s m _
    cases r <;> rfl
  have hKept : ∀ past operation, past ++ [operation] <+: twoFlights →
      ((powerUp i () {} cadence fun _ => none).run past).recalls operation = false := by
    rw [forall_step_iff_take]
    decide +kernel
  have hLog := trace_run_eq_log i () {} cadence (fun _ => none) twoFlights hSpares hKept
  refine ⟨hSpares, hKept, hLog, ?_⟩
  rw [hLog]
  decide +kernel

end Engine

end Soaring

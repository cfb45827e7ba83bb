import Mathlib.Data.List.Chain
import Soaring.Proofs.Clock.Delta
import Soaring.Proofs.Engine.Invariants
import Soaring.Proofs.Promises
import Soaring.Proofs.Store.Ring

/-!
The order of the trace history. The trace clock decides whether a sample is recorded, and it knows
the time it accepted last but not the last entry. As long as no snapshot comes back, the clock is
never behind the last entry. A snapshot brings its own history and leaves the clock as it is, so
after a warp of GPS time the clock may accept a time that lies before the last entry.
-/
namespace Soaring

namespace Trace

/-- Of neighbouring entries, the later one follows by at least the given time. -/
def Spaced (least : Stamp) (t : Trace) : Prop :=
  t.toList.IsChain fun a b => a.time + least ≤ b.time

theorem spaced_empty (least : Stamp) : Spaced least .empty := by
  unfold Spaced Trace.empty
  rw [Ring.toList_empty]
  exact List.IsChain.nil

theorem wellFormed_empty : Ring.WellFormed Trace.empty := Ring.wellFormed_empty _

/-- The entry pushed last is the last one, also on a ring that is full. -/
theorem getLast?_push {t : Trace} (h : t.WellFormed) (entry : TraceEntry) :
    (t.push entry).toList.getLast? = some entry := by
  rw [(h.holds_push entry).toList, List.getLast?_append]
  rfl

/-- The new entry is to follow the last one. There are enough slots for the last one to stay, even
if the oldest one is lost. -/
theorem spaced_push_iff {least : Stamp} {t : Trace} (hForm : t.WellFormed) (h : Spaced least t)
    (entry : TraceEntry) :
    Spaced least (t.push entry) ↔
      ∀ last ∈ t.toList.getLast?, last.time + least ≤ entry.time := by
  have hKept : (if t.toList.length < traceSize then t.toList else t.toList.tail).getLast? =
      t.toList.getLast? := by
    split
    · rfl
    · next hFull =>
        have hMany : traceSize = 30 := rfl
        rw [List.getLast?_tail, if_neg (by omega)]
  have hChain : (if t.toList.length < traceSize then t.toList else t.toList.tail).IsChain
      fun a b => a.time + least ≤ b.time := by
    split
    · exact h
    · exact h.tail
  unfold Spaced
  rw [(hForm.holds_push entry).toList, List.isChain_append, hKept]
  simp [hChain]

end Trace

namespace Engine

variable {Memory : Type}

/-- The trace clock accepts the GPS time of the sample, which is too early for the last entry. -/
def Misplaces (e : Engine Memory) (sample : Sample) : Prop :=
  ∃ time accepted last, sample.time = some time ∧ e.traceClock.last = some accepted ∧
    accepted + e.cadence.trace ≤ time ∧ last ∈ e.situation.trace.toList.getLast? ∧
    time < last.time + e.cadence.trace

/-- The trace clock has accepted a time at or after that of the last entry. -/
def Settled (e : Engine Memory) : Prop :=
  ∀ last ∈ e.situation.trace.toList.getLast?, ∃ accepted,
    e.traceClock.last = some accepted ∧ last.time ≤ accepted

/-- The histories in view and in the snapshot are in order. -/
structure Ordered (e : Engine Memory) : Prop where
  formed : e.situation.trace.WellFormed
  spaced : Trace.Spaced e.cadence.trace e.situation.trace
  snapshot : ∀ saved, e.finish = some saved →
    saved.trace.WellFormed ∧ Trace.Spaced e.cadence.trace saved.trace

/-- What a sample does to the trace clock: nothing, a first start, a new start after a warp, or the
acceptance of a time far enough behind the last one. -/
theorem traceStep_cases (e : Engine Memory) (sample : Sample) :
    e.traceStep sample = (e.traceClock, .pending) ∨
    (∃ time, e.traceClock.last = none ∧ e.traceStep sample = (⟨some time⟩, .pending)) ∨
    (∃ time, e.traceStep sample = (⟨some time⟩, .warp)) ∨
    ∃ time accepted, sample.time = some time ∧ e.traceClock.last = some accepted ∧
      accepted + e.cadence.trace ≤ time ∧
      e.traceStep sample = (⟨some time⟩, .elapsed (time - accepted)) := by
  unfold traceStep
  cases sample.time with
  | none => exact .inl rfl
  | some time =>
      rcases e.traceClock.feed_cases time e.cadence.trace with
        ⟨hUnset, hFirst⟩ | ⟨accepted, hAccepted, ⟨-, hWarp⟩ | ⟨-, -, hHeld⟩ | ⟨hSpan, hElapsed⟩⟩
      · exact .inr (.inl ⟨time, hUnset, hFirst⟩)
      · exact .inr (.inr (.inl ⟨time, hWarp⟩))
      · exact .inl hHeld
      · exact .inr (.inr (.inr ⟨time, accepted, rfl, hAccepted, hSpan, hElapsed⟩))

/-- Such a time is accepted as the next entry. -/
theorem Misplaces.traceStep {e : Engine Memory} {sample : Sample} (h : e.Misplaces sample) :
    ∃ span, (e.traceStep sample).2 = .elapsed span := by
  obtain ⟨time, accepted, last, hTime, hAccepted, hSpan, -, -⟩ := h
  refine ⟨time - accepted, ?_⟩
  rw [Engine.traceStep, hTime]
  show (e.traceClock.feed time e.cadence.trace).2 = _
  rw [DeltaClock.feed_of_far hAccepted hSpan]

section

variable {e : Engine Memory}

/-- Up to the flight phase, the history is touched by the trace clock alone. -/
theorem trace_derive (hSpares : e.instruments.Spares Situation.trace) (sample : Sample)
    (force : Bool) :
    (e.afterTaskBasics sample force).situation.trace = e.situation.trace ∧
    (e.derive sample force).situation.trace =
      traceAfter e.situation.trace sample (e.traceStep sample).2 := by
  constructor
  · simp [afterTaskBasics, afterAirBasics, hSpares.revise]
  · simp [derive_eq, beforeTeam, afterTaskBasics, afterAirBasics, hSpares.revise, traceStep]

/-- The snapshot before the flight phase holds the history before the tick, or that of the snapshot
before the tick. -/
theorem Ordered.finish_derive (h : e.Ordered) (hSpares : e.instruments.Spares Situation.trace)
    (sample : Sample) (force : Bool) (saved : Situation)
    (hSaved : (e.derive sample force).finish = some saved) :
    saved.trace.WellFormed ∧ Trace.Spaced e.cadence.trace saved.trace := by
  rw [Engine.finish_derive] at hSaved
  split at hSaved
  · obtain rfl := Option.some.inj hSaved
    rw [(trace_derive hSpares sample force).1]
    exact ⟨h.formed, h.spaced⟩
  · exact h.snapshot saved hSaved

/-- The computations of a tick keep the history in order unless the sample is misplaced. -/
theorem Ordered.spaced_derive_iff (h : e.Ordered) (hSpares : e.instruments.Spares Situation.trace)
    (sample : Sample) (force : Bool) :
    (e.derive sample force).situation.trace.WellFormed ∧
    (Trace.Spaced e.cadence.trace (e.derive sample force).situation.trace ↔
      ¬ e.Misplaces sample) := by
  rw [(trace_derive hSpares sample force).2]
  have hOther : (∀ span, (e.traceStep sample).2 ≠ .elapsed span) → ¬ e.Misplaces sample := by
    intro hStep hMisplaced
    obtain ⟨span, hSpan⟩ := hMisplaced.traceStep
    exact hStep span hSpan
  rcases e.traceStep_cases sample with hStep | ⟨time, -, hStep⟩ | ⟨time, hStep⟩ |
    ⟨time, accepted, hTime, hAccepted, hSpan, hStep⟩
  · exact ⟨by simpa [hStep, traceAfter] using h.formed,
      by simpa [hStep, traceAfter, h.spaced] using hOther⟩
  · exact ⟨by simpa [hStep, traceAfter] using h.formed,
      by simpa [hStep, traceAfter, h.spaced] using hOther⟩
  · exact ⟨by simpa [hStep, traceAfter] using Trace.wellFormed_empty,
      by simpa [hStep, traceAfter, Trace.spaced_empty] using hOther⟩
  · have hAppend : traceAfter e.situation.trace sample (e.traceStep sample).2 =
        e.situation.trace.push (.ofSample sample time) := by
      simp [hStep, traceAfter, Trace.append, hTime]
    rw [hAppend]
    refine ⟨(h.formed.holds_push _).wellFormed, ?_⟩
    rw [Trace.spaced_push_iff h.formed h.spaced]
    constructor
    · rintro hFollows ⟨time', accepted', last, hTime', -, -, hLast, hEarly⟩
      obtain rfl : time = time' := Option.some.inj (hTime.symm.trans hTime')
      exact absurd (hFollows last hLast) (Nat.not_le.mpr hEarly)
    · intro hPlaced last hLast
      by_contra hEarly
      exact hPlaced ⟨time, accepted, last, hTime, hAccepted, hSpan, hLast, Nat.not_le.mp hEarly⟩

/-- A tick ends with the history in order, unless the sample is misplaced and no snapshot comes in
its place. -/
theorem Ordered.tick (h : e.Ordered) (hSpares : e.instruments.Spares Situation.trace)
    (sample : Sample) (force : Bool) :
    (Trace.Spaced e.cadence.trace (e.tick sample force).1.situation.trace ↔
      ¬ (e.reinstated sample force = none ∧ e.Misplaces sample)) ∧
    (Trace.Spaced e.cadence.trace (e.tick sample force).1.situation.trace →
      (e.tick sample force).1.Ordered) := by
  obtain ⟨hForm, hIff⟩ := h.spaced_derive_iff hSpares sample force
  have hSnapshot := h.finish_derive hSpares sample force
  have hCadence : (e.tick sample force).1.cadence = e.cadence := by simp
  rcases tick_cases e sample force with
    ⟨hNone, hTick, hFinish⟩ | ⟨saved, hSaved, hTick, hKept, hFinish⟩ | ⟨hNone, hTick, hFinish⟩
  · have hTrace : (e.tick sample force).1.situation.trace =
        (e.derive sample force).situation.trace := by
      rw [hTick]
      simp [hSpares.revise]
    rw [hTrace, hIff, hNone]
    refine ⟨by simp, fun hPlaced => ⟨hTrace ▸ hForm, ?_, ?_⟩⟩
    · rw [hCadence, hTrace, hIff]
      exact hPlaced
    · intro saved hSaved
      obtain rfl : (e.tick sample force).1.situation = saved :=
        Option.some.inj (hFinish.symm.trans hSaved)
      rw [hCadence, hTrace, hIff]
      exact ⟨hForm, hPlaced⟩
  -- What the tick recorded is dropped, so the sample does not matter.
  · have hTrace : (e.tick sample force).1.situation.trace = saved.trace := by rw [hTick]
    obtain ⟨hSavedForm, hSavedSpaced⟩ := hSnapshot saved hKept
    rw [hTrace, hSaved]
    refine ⟨by simpa using hSavedSpaced, fun _ => ⟨hTrace ▸ hSavedForm, ?_, ?_⟩⟩
    · rw [hCadence, hTrace]
      exact hSavedSpaced
    · intro other hOther
      rw [hCadence]
      exact hSnapshot other (hKept.trans (hFinish.symm.trans hOther))
  · rw [hTick, hIff, hNone]
    refine ⟨by simp, fun hPlaced => ⟨by rwa [hTick], ?_, ?_⟩⟩
    · rw [hCadence, hTick, hIff]
      exact hPlaced
    · intro saved hSaved
      rw [hCadence]
      exact hSnapshot saved (hFinish.symm.trans hSaved)

/-- The operation is a tick that records a misplaced sample. -/
def Missteps (e : Engine Memory) : Operation → Prop
  | .tick sample force => e.openJournal.reinstated sample force = none ∧ e.Misplaces sample
  | _ => False

/-- The operation may bring back a snapshot. -/
def Recalls (e : Engine Memory) : Operation → Prop
  | .tick sample force => e.openJournal.reinstated sample force ≠ none
  | .restoreFinish => True
  | _ => False

/-- An operation other than a tick keeps the history and its clock and may save the situation, or
is a reset, which forgets all of them, or is the recall of the snapshot, which the clock does not
see. -/
theorem trace_perform_quiet (hSpares : e.instruments.Spares Situation.trace)
    {operation : Operation} (hQuiet : ∀ sample force, operation ≠ .tick sample force) :
    ((∀ full, operation ≠ .resetFlight full) ∧
      (e.perform operation).1.situation.trace = e.situation.trace ∧
      (e.perform operation).1.traceClock = e.traceClock ∧
      ∀ saved, (e.perform operation).1.finish = some saved →
        saved = e.situation ∨ e.finish = some saved) ∨
    (∃ full, operation = .resetFlight full ∧
      (e.perform operation).1.situation.trace = .empty ∧
      (e.perform operation).1.traceClock = .unset ∧ (e.perform operation).1.finish = none) ∨
    (operation = .restoreFinish ∧ (e.perform operation).1.situation.trace = e.recalled.trace ∧
      (e.perform operation).1.traceClock = e.traceClock ∧
      (e.perform operation).1.finish = e.finish) := by
  cases operation with
  | tick sample force => exact absurd rfl (hQuiet sample force)
  | idlePass exhaustive =>
      obtain ⟨warnings, memory, hSituation⟩ := situation_idlePass e.openJournal exhaustive
      refine .inl
        ⟨by simp, ?_, by simp [Engine.perform], by simpa [Engine.perform] using fun _ => .inr⟩
      change (e.openJournal.idlePass exhaustive).situation.trace = _
      rw [hSituation]
      exact hSpares.revise _ _ _
  | resetFlight full =>
      refine .inr (.inl ⟨full, rfl, ?_, by simp [Engine.perform], rfl⟩)
      change (e.openJournal.resetFlight full).situation.trace = _
      rw [situation_resetFlight]
      refine (hSpares.revise _ _ _).trans ?_
      cases full <;> rfl
  | restoreFinish => exact .inr (.inr (by simp [Engine.perform, recalled]))
  | saveFinish =>
      exact .inl ⟨by simp, rfl, rfl, fun saved hSaved => .inl (Option.some.inj hSaved).symm⟩
  | startTask | setSettings =>
      refine .inl ⟨by simp, by simp [Engine.perform], by simp [Engine.perform], ?_⟩
      simpa [Engine.perform] using fun _ => .inr
  | enterZone | setWaypoints | drainEvents => exact .inl ⟨by simp, rfl, rfl, fun _ => .inr⟩

/-- Only ticks append, so any other operation leaves the history as ordered as it was. -/
theorem Ordered.perform_quiet (h : e.Ordered) (hSpares : e.instruments.Spares Situation.trace)
    {operation : Operation} (hQuiet : ∀ sample force, operation ≠ .tick sample force) :
    (e.perform operation).1.Ordered := by
  have hCadence : (e.perform operation).1.cadence = e.cadence := (perform_frame e operation).2
  rcases trace_perform_quiet hSpares hQuiet with
    ⟨-, hTrace, -, hFinish⟩ | ⟨_, -, hTrace, -, hFinish⟩ | ⟨-, hTrace, -, hFinish⟩
  · refine ⟨hTrace ▸ h.formed, hCadence ▸ hTrace ▸ h.spaced, ?_⟩
    intro saved hSaved
    rw [hCadence]
    rcases hFinish saved hSaved with rfl | hKept
    · exact ⟨h.formed, h.spaced⟩
    · exact h.snapshot saved hKept
  · refine ⟨hTrace ▸ Trace.wellFormed_empty, hTrace ▸ Trace.spaced_empty _, ?_⟩
    intro saved hSaved
    cases hFinish.symm.trans hSaved
  · have hRecalled : e.recalled.trace.WellFormed ∧
        Trace.Spaced e.cadence.trace e.recalled.trace := by
      unfold recalled
      cases hSaved : e.finish with
      | none => exact ⟨h.formed, h.spaced⟩
      | some saved => exact h.snapshot saved hSaved
    refine ⟨hTrace ▸ hRecalled.1, hCadence ▸ hTrace ▸ hRecalled.2, ?_⟩
    intro saved hSaved
    rw [hCadence]
    exact h.snapshot saved (hFinish.symm.trans hSaved)

/-- An operation leaves the history in order exactly if it is no misstep, and then the snapshot is
in order too. -/
theorem Ordered.perform (h : e.Ordered) (hSpares : e.instruments.Spares Situation.trace)
    (operation : Operation) :
    (Trace.Spaced e.cadence.trace (e.perform operation).1.situation.trace ↔
      ¬ e.Missteps operation) ∧
    (¬ e.Missteps operation → (e.perform operation).1.Ordered) := by
  by_cases hQuiet : ∀ sample force, operation ≠ .tick sample force
  · have hAfter := h.perform_quiet hSpares hQuiet
    have hSpaced := hAfter.spaced
    rw [(perform_frame e operation).2] at hSpaced
    have hNot : ¬ e.Missteps operation := by
      cases operation with
      | tick sample force => exact absurd rfl (hQuiet sample force)
      | idlePass | resetFlight | startTask | enterZone | saveFinish | restoreFinish | setSettings
      | setWaypoints | drainEvents => exact id
    exact ⟨⟨fun _ => hNot, fun _ => hSpaced⟩, fun _ => hAfter⟩
  · push Not at hQuiet
    obtain ⟨sample, force, rfl⟩ := hQuiet
    have hOpen : e.openJournal.Ordered := ⟨h.formed, h.spaced, h.snapshot⟩
    obtain ⟨hIff, hAfter⟩ := hOpen.tick hSpares sample force
    exact ⟨hIff, fun hStep => hAfter (hIff.mpr hStep)⟩

/-- The computations of a tick let the clock keep up with what they record. -/
theorem Settled.derive (h : e.Settled) (hOrdered : e.Ordered)
    (hSpares : e.instruments.Spares Situation.trace) (sample : Sample) (force : Bool) :
    ∀ last ∈ (e.derive sample force).situation.trace.toList.getLast?, ∃ accepted,
      (e.traceStep sample).1.last = some accepted ∧ last.time ≤ accepted := by
  rw [(trace_derive hSpares sample force).2]
  intro last hLast
  rcases e.traceStep_cases sample with hStep | ⟨time, hUnset, hStep⟩ | ⟨time, hStep⟩ |
    ⟨time, accepted, hTime, hAccepted, hSpan, hStep⟩
  · rw [hStep] at hLast ⊢
    exact h last hLast
  · rw [hStep] at hLast ⊢
    obtain ⟨accepted, hAccepted, -⟩ := h last hLast
    cases hUnset.symm.trans hAccepted
  · rw [hStep] at hLast
    simp [traceAfter, Trace.empty, Ring.toList_empty] at hLast
  · rw [hStep] at hLast ⊢
    simp only [traceAfter, Trace.append, hTime, Trace.getLast?_push hOrdered.formed,
      Option.mem_some_iff] at hLast
    subst hLast
    exact ⟨time, rfl, Nat.le_refl time⟩

/-- While no snapshot comes back, the trace clock keeps up with the history. -/
theorem Settled.perform (h : e.Settled) (hOrdered : e.Ordered)
    (hSpares : e.instruments.Spares Situation.trace) {operation : Operation}
    (hRecall : ¬ e.Recalls operation) : (e.perform operation).1.Settled := by
  by_cases hQuiet : ∀ sample force, operation ≠ .tick sample force
  · rcases trace_perform_quiet hSpares hQuiet with
      ⟨-, hTrace, hClock, -⟩ | ⟨_, -, hTrace, -, -⟩ | ⟨rfl, -, -, -⟩
    · unfold Settled
      rwa [hTrace, hClock]
    · unfold Settled
      rw [hTrace]
      simp [Trace.empty, Ring.toList_empty]
    · exact absurd trivial hRecall
  · push Not at hQuiet
    obtain ⟨sample, force, rfl⟩ := hQuiet
    have hOpen : e.openJournal.Ordered := ⟨hOrdered.formed, hOrdered.spaced, hOrdered.snapshot⟩
    have hDerive := Settled.derive (e := e.openJournal) h hOpen hSpares sample force
    have hNone : e.openJournal.reinstated sample force = none := not_not.mp hRecall
    have hTrace : (e.openJournal.tick sample force).1.situation.trace =
        (e.openJournal.derive sample force).situation.trace :=
      spared_tick hSpares (by simp [recalls, hNone])
    have hClock : (e.openJournal.tick sample force).1.traceClock =
        (e.openJournal.traceStep sample).1 := by simp
    change (e.openJournal.tick sample force).1.Settled
    unfold Settled
    rwa [hTrace, hClock]

/-- A clock that keeps up with the history misplaces no sample. -/
theorem Settled.not_misplaces (h : e.Settled) (sample : Sample) : ¬ e.Misplaces sample := by
  rintro ⟨time, accepted, last, -, hAccepted, hSpan, hLast, hEarly⟩
  obtain ⟨accepted', hAccepted', hBound⟩ := h last hLast
  obtain rfl : accepted = accepted' := Option.some.inj (hAccepted.symm.trans hAccepted')
  exact absurd hEarly (Nat.not_lt.mpr (Nat.le_trans (Nat.add_le_add_right hBound _) hSpan))

theorem Settled.not_missteps (h : e.Settled) (operation : Operation) : ¬ e.Missteps operation := by
  cases operation with
  | tick sample force => exact fun hStep => h.not_misplaces sample hStep.2
  | idlePass | resetFlight | startTask | enterZone | saveFinish | restoreFinish | setSettings
  | setWaypoints | drainEvents => exact id

/-- Along a run, the history is in order all the time exactly if no operation is a misstep. -/
theorem Ordered.run_spaced_iff (h : e.Ordered) (hSpares : e.instruments.Spares Situation.trace)
    (operations : List Operation) :
    (∀ past, past <+: operations →
      Trace.Spaced e.cadence.trace (e.run past).situation.trace) ↔
    ∀ past operation, past ++ [operation] <+: operations → ¬ (e.run past).Missteps operation := by
  induction operations generalizing e with
  | nil =>
      constructor
      · intro _ past operation hPast
        simp at hPast
      · intro _ past hPast
        obtain rfl := List.prefix_nil.mp hPast
        exact h.spaced
  | cons operation rest ih =>
      obtain ⟨hIff, hAfter⟩ := h.perform hSpares operation
      have hRest := fun hStep => ih (e := (e.perform operation).1) (hAfter hStep)
        (by simpa using hSpares)
      rw [(perform_frame e operation).2] at hRest
      rw [forall_prefix_cons, forall_step_cons]
      constructor
      · rintro ⟨-, hAll⟩
        have hStep : ¬ e.Missteps operation := hIff.mp (hAll [] List.nil_prefix)
        exact ⟨hStep, (hRest hStep).mp hAll⟩
      · rintro ⟨hStep, hNone⟩
        exact ⟨h.spaced, (hRest hStep).mpr hNone⟩

/-- A run takes no misstep if the clock keeps up with every history that it brings back. -/
theorem Settled.run_not_missteps (h : e.Settled) (hOrdered : e.Ordered)
    (hSpares : e.instruments.Spares Situation.trace) (operations : List Operation)
    (hRecalls : ∀ past operation, past ++ [operation] <+: operations →
      (e.run past).Recalls operation → ((e.run past).perform operation).1.Settled) :
    ∀ past operation, past ++ [operation] <+: operations →
      ¬ (e.run past).Missteps operation := by
  induction operations generalizing e with
  | nil =>
      intro past operation hPast
      simp at hPast
  | cons operation rest ih =>
      rw [forall_step_cons] at hRecalls ⊢
      obtain ⟨hFirst, hLater⟩ := hRecalls
      have hStep : ¬ e.Missteps operation := h.not_missteps operation
      have hSettled : (e.perform operation).1.Settled := by
        by_cases hRecall : e.Recalls operation
        · exact hFirst hRecall
        · exact h.perform hOrdered hSpares hRecall
      exact ⟨hStep, ih hSettled ((hOrdered.perform hSpares operation).2 hStep)
        (by simpa using hSpares) hLater⟩

end

/-- A new engine has no history and no snapshot. -/
theorem ordered_powerUp {i : Instruments Memory} (hSpares : i.Spares Situation.trace) (m : Memory)
    (settings : Settings) (cadence : Cadence) (waypoints : WaypointSource) :
    (powerUp i m settings cadence waypoints).Ordered ∧
    (powerUp i m settings cadence waypoints).Settled := by
  have hTrace : (powerUp i m settings cadence waypoints).situation.trace = .empty := by
    simp only [powerUp, record_frame, situation_resetFlight]
    exact hSpares.revise _ _ _
  refine ⟨⟨hTrace ▸ Trace.wellFormed_empty, hTrace ▸ Trace.spaced_empty _, ?_⟩, ?_⟩
  · intro saved hSaved
    cases hSaved
  · unfold Settled
    rw [hTrace]
    simp [Trace.empty, Ring.toList_empty]

/-- Over instruments that do not write the trace history, the history of a run is spaced by the
interval of the cadence after every operation exactly if no tick records a misplaced sample: one
whose GPS time the trace clock accepts although it lies before the last entry, or too little after
it. A tick that brings back a snapshot drops what it recorded. Only a snapshot can make the clock
and the history disagree, so the run is in order if each one that comes back finds a clock that is
not behind its last entry. -/
theorem trace_run_spaced_iff (i : Instruments Memory) (m : Memory) (settings : Settings)
    (cadence : Cadence) (waypoints : WaypointSource) (operations : List Operation)
    (hSpares : i.Spares Situation.trace) :
    let start := powerUp i m settings cadence waypoints
    ((∀ past, past <+: operations →
        Trace.Spaced cadence.trace (start.run past).situation.trace) ↔
      ∀ past operation, past ++ [operation] <+: operations →
        ¬ (start.run past).Missteps operation) ∧
    ((∀ past operation, past ++ [operation] <+: operations → (start.run past).Recalls operation →
        ((start.run past).perform operation).1.Settled) →
      ∀ past, past <+: operations →
        Trace.Spaced cadence.trace (start.run past).situation.trace) := by
  intro start
  have hStart : start.instruments = i ∧ start.cadence = cadence := by simp [start, powerUp]
  obtain ⟨hOrdered, hSettled⟩ := ordered_powerUp hSpares m settings cadence waypoints
  rw [← hStart.1] at hSpares
  have hIff := hOrdered.run_spaced_iff hSpares operations
  rw [show (powerUp i m settings cadence waypoints).cadence = cadence from hStart.2] at hIff
  exact ⟨hIff, fun hRecalls =>
    hIff.mpr (hSettled.run_not_missteps hOrdered hSpares operations hRecalls)⟩

/-- The snapshot outlives a warp of GPS time, and the next sample is recorded behind it although it
is earlier. -/
theorem recalled_trace_not_spaced :
    let e := (powerUp Instruments.none () {} {} fun _ => none).run
      [.tick { clock := 0, time := some 10000 } false,
        .tick { clock := 1000, time := some 11000 } false, .saveFinish,
        .tick { clock := 2000, time := some 5000 } false, .restoreFinish,
        .tick { clock := 3000, time := some 6000 } false]
    Instruments.none.Spares Situation.trace ∧
    e.situation.trace.toList.map TraceEntry.time = [11000, 6000] ∧
    ¬ Trace.Spaced e.cadence.trace e.situation.trace := by
  intro e
  have hTimes : e.situation.trace.toList.map TraceEntry.time = [11000, 6000] := by
    decide +kernel
  refine ⟨fun _ _ _ _ => rfl, hTimes, ?_⟩
  intro hSpaced
  have hPair : (e.situation.trace.toList.map TraceEntry.time).IsChain
      fun a b => a + e.cadence.trace ≤ b := (List.isChain_map _).mpr hSpaced
  rw [hTimes, List.isChain_pair] at hPair
  exact absurd (Nat.le_trans (Nat.le_add_right 11000 _) hPair) (by decide)

/-- The same run up to the recall, before the early sample comes in. -/
theorem trace_recall_spaced_iff :
    let start := powerUp Instruments.none () {} {} fun _ => none
    let operations : List Operation :=
      [.tick { clock := 0, time := some 10000 } false,
        .tick { clock := 1000, time := some 11000 } false, .saveFinish,
        .tick { clock := 2000, time := some 5000 } false, .restoreFinish]
    Instruments.none.Spares Situation.trace ∧
    ((∀ past, past <+: operations → Trace.Spaced 500 (start.run past).situation.trace) ↔
      ∀ past operation, past ++ [operation] <+: operations →
        ¬ (start.run past).Missteps operation) :=
  ⟨fun _ _ _ _ => rfl, (trace_run_spaced_iff Instruments.none () {} {} (fun _ => none) _
    fun _ _ _ _ => rfl).1⟩

end Engine

end Soaring

import Mathlib.Data.List.Induction
import Soaring.Clock.Delta

/-!
Delta clocks over many stamps. Between two warps the clock reports exactly the time from the stamp
that it started from to the one that it accepted last: what it holds back it reports later, and a
stamp that goes back, but not behind the accepted one, counts for nothing. A warp starts the account
anew.
-/
namespace Soaring

namespace TimeStep

def span : TimeStep → Nat
  | elapsed span => span
  | pending | warp => 0

def total : List TimeStep → Nat
  | [] => 0
  | step :: rest => step.span + total rest

end TimeStep

namespace DeltaClock

open TimeStep (total)

def after (c : DeltaClock) (least : Stamp) (stamps : List Stamp) : DeltaClock :=
  stamps.foldl (fun c now => (c.feed now least).1) c

def steps (c : DeltaClock) (least : Stamp) : List Stamp → List TimeStep
  | [] => []
  | now :: rest => (c.feed now least).2 :: (c.feed now least).1.steps least rest

/-- The stamps that the clock accepts: the first one, and those at which time or a warp is
reported. -/
def accepted (c : DeltaClock) (least : Stamp) : List Stamp → List Stamp
  | [] => []
  | now :: rest =>
    let (next, step) := c.feed now least
    if c.isDefined ∧ step = .pending then next.accepted least rest
    else now :: next.accepted least rest

/-- Of the stamps fed to a new clock, `start` is the first one or that of the latest warp, and `leg`
has come since. -/
structure LatestLeg (least : Stamp) (before : List Stamp) (start : Stamp) (leg : List Stamp) :
    Prop where
  starts : before = [] ∨ ((unset.after least before).feed start least).2 = .warp
  forward : .warp ∉ (unset.after least (before ++ [start])).steps least leg

/-- The three outcomes on a clock with a past: time went back, or the least step is not over yet, or
it is. -/
theorem feed_of_some {c : DeltaClock} {last : Stamp} (hLast : c.last = some last)
    (now least : Stamp) :
    c.feed now least =
      if now < last then (⟨some now⟩, .warp)
      else if now - last < least then (c, .pending)
      else (⟨some now⟩, .elapsed (now - last)) := by
  rw [feed, hLast]

/-- The time since the stamp accepted last is reported as soon as it is long enough. -/
theorem feed_of_far {c : DeltaClock} {last now least : Stamp} (hLast : c.last = some last)
    (hFar : last + least ≤ now) : c.feed now least = (⟨some now⟩, .elapsed (now - last)) := by
  rw [feed_of_some hLast, if_neg (Nat.not_lt.mpr (Nat.le_of_add_right_le hFar)),
    if_neg (Nat.not_lt.mpr (Nat.le_sub_of_add_le' hFar))]

/-- All that a stamp can come to: it is the first one, or a warp, or it is held back, or the time up
to it is reported. -/
theorem feed_cases (c : DeltaClock) (now least : Stamp) :
    (c.last = none ∧ c.feed now least = (⟨some now⟩, .pending)) ∨
    ∃ last, c.last = some last ∧
      ((now < last ∧ c.feed now least = (⟨some now⟩, .warp)) ∨
      (last ≤ now ∧ now - last < least ∧ c.feed now least = (c, .pending)) ∨
      (last + least ≤ now ∧ c.feed now least = (⟨some now⟩, .elapsed (now - last)))) := by
  cases hLast : c.last with
  | none => exact .inl ⟨rfl, by rw [feed, hLast]⟩
  | some last =>
      refine .inr ⟨last, rfl, ?_⟩
      have hFeed := feed_of_some hLast now least
      by_cases hBack : now < last
      · exact .inl ⟨hBack, hFeed.trans (if_pos hBack)⟩
      · rw [if_neg hBack] at hFeed
        have hPast : last ≤ now := Nat.le_of_not_lt hBack
        by_cases hSoon : now - last < least
        · exact .inr (.inl ⟨hPast, hSoon, hFeed.trans (if_pos hSoon)⟩)
        · have hFar : last + least ≤ now :=
            (Nat.le_sub_iff_add_le' hPast).mp (Nat.le_of_not_lt hSoon)
          exact .inr (.inr ⟨hFar, feed_of_far hLast hFar⟩)

/-- A warp means that the stamp lies before the one accepted last. -/
theorem step_eq_warp_iff (c : DeltaClock) (now least : Stamp) :
    (c.feed now least).2 = .warp ↔ ∃ last, c.last = some last ∧ now < last := by
  rcases c.feed_cases now least with
    ⟨hNone, hFirst⟩ | ⟨last, hLast, ⟨hBack, hWarp⟩ | ⟨hPast, -, hHeld⟩ | ⟨hFar, hElapsed⟩⟩
  · simp [hFirst, hNone]
  · simp [hWarp, hLast, hBack]
  · simp [hHeld, hLast, hPast]
  · simp [hElapsed, hLast, Nat.le_of_add_right_le hFar]

/-- Nothing is reported for a first stamp and for stamps that follow the last accepted one too
soon. -/
theorem step_eq_pending_iff (c : DeltaClock) (now least : Stamp) :
    (c.feed now least).2 = .pending ↔
      c.last = none ∨ ∃ last, c.last = some last ∧ last ≤ now ∧ now - last < least := by
  rcases c.feed_cases now least with
    ⟨hNone, hFirst⟩ | ⟨last, hLast, ⟨hBack, hWarp⟩ | ⟨hPast, hSoon, hHeld⟩ | ⟨hFar, hElapsed⟩⟩
  · simp [hFirst, hNone]
  · simp [hWarp, hLast, Nat.not_le.mpr hBack]
  · simp [hHeld, hLast, hPast, hSoon]
  · simp [hElapsed, hLast, Nat.le_sub_of_add_le' hFar]

/-- Spans below the least step are never reported. -/
theorem le_span_of_elapsed {c : DeltaClock} {now least : Stamp} {span : Nat}
    (h : (c.feed now least).2 = .elapsed span) : least ≤ span := by
  rcases c.feed_cases now least with
    ⟨-, hFirst⟩ | ⟨last, -, ⟨-, hWarp⟩ | ⟨-, -, hHeld⟩ | ⟨hFar, hElapsed⟩⟩
  · simp [hFirst] at h
  · simp [hWarp] at h
  · simp [hHeld] at h
  · rw [hElapsed] at h
    cases h
    exact Nat.le_sub_of_add_le' hFar

/-- The stamp accepted last is not later than the one just fed. -/
theorem last_feed_le (c : DeltaClock) (now least : Stamp) :
    ∃ last, (c.feed now least).1.last = some last ∧ last ≤ now := by
  rcases c.feed_cases now least with
    ⟨-, hFirst⟩ | ⟨last, hLast, ⟨-, hWarp⟩ | ⟨hPast, -, hHeld⟩ | ⟨-, hElapsed⟩⟩
  · exact ⟨now, by rw [hFirst], Nat.le_refl now⟩
  · exact ⟨now, by rw [hWarp], Nat.le_refl now⟩
  · exact ⟨last, by rw [hHeld, hLast], hPast⟩
  · exact ⟨now, by rw [hElapsed], Nat.le_refl now⟩

/-- After a warp time is counted from the stamp that went back. -/
theorem last_feed_of_warp {c : DeltaClock} {now least : Stamp}
    (h : (c.feed now least).2 = .warp) : (c.feed now least).1.last = some now := by
  rcases c.feed_cases now least with
    ⟨-, hFirst⟩ | ⟨last, -, ⟨-, hWarp⟩ | ⟨-, -, hHeld⟩ | ⟨-, hElapsed⟩⟩
  · rw [hFirst]
  · rw [hWarp]
  · rw [hHeld] at h
    cases h
  · rw [hElapsed]

/-- A step that is no warp moves the accepted stamp by the time that it reports. -/
theorem last_feed_of_ne_warp {c : DeltaClock} {last now least : Stamp} (hLast : c.last = some last)
    (hForward : (c.feed now least).2 ≠ .warp) :
    (c.feed now least).1.last = some (last + (c.feed now least).2.span) := by
  rcases c.feed_cases now least with
    ⟨hNone, -⟩ | ⟨last', hLast', ⟨-, hWarp⟩ | ⟨-, -, hHeld⟩ | ⟨hFar, hElapsed⟩⟩
  · rw [hLast] at hNone
    cases hNone
  · rw [hWarp] at hForward
    exact absurd rfl hForward
  · rw [hHeld]
    exact hLast
  · rw [hLast] at hLast'
    cases hLast'
    rw [hElapsed]
    show some now = some (last + (now - last))
    rw [Nat.add_sub_of_le (Nat.le_of_add_right_le hFar)]

theorem after_append (c : DeltaClock) (least : Stamp) (stamps more : List Stamp) :
    c.after least (stamps ++ more) = (c.after least stamps).after least more :=
  List.foldl_append

/-- The steps of a longer sequence go on from the clock that its first part leaves behind. -/
theorem steps_append (c : DeltaClock) (least : Stamp) (stamps more : List Stamp) :
    c.steps least (stamps ++ more) =
      c.steps least stamps ++ (c.after least stamps).steps least more := by
  induction stamps generalizing c with
  | nil => rfl
  | cons now rest ih =>
      rw [List.cons_append, steps, ih, steps]
      rfl

/-- A clock knows the stamp that it accepted last. -/
theorem last_after (c : DeltaClock) (least : Stamp) (stamps : List Stamp) :
    (c.after least stamps).last = (c.accepted least stamps).getLast?.or c.last := by
  induction stamps generalizing c with
  | nil => rfl
  | cons now rest ih =>
      show ((c.feed now least).1.after least rest).last = _
      rw [ih, accepted]
      rcases c.feed_cases now least with
        ⟨hNone, hFirst⟩ | ⟨last, hLast, ⟨-, hWarp⟩ | ⟨-, -, hHeld⟩ | ⟨-, hElapsed⟩⟩
      · simp [hFirst, isDefined, hNone, List.getLast?_cons]
      · simp [hWarp, List.getLast?_cons]
      · simp [hHeld, isDefined, hLast]
      · simp [hElapsed, List.getLast?_cons]

/-- The clock holds the last stamp that it has accepted. -/
theorem last_after_unset (least : Stamp) (stamps : List Stamp) :
    (unset.after least stamps).last = (unset.accepted least stamps).getLast? := by
  rw [last_after]
  exact Option.or_none

/-- The stamp accepted last is not later than the last one fed. -/
theorem last_after_le (c : DeltaClock) (least : Stamp) {stamps : List Stamp} {now : Stamp}
    (hNow : stamps.getLast? = some now) :
    ∃ last, (c.after least stamps).last = some last ∧ last ≤ now := by
  obtain ⟨past, rfl⟩ := List.getLast?_eq_some_iff.mp hNow
  rw [after_append]
  exact last_feed_le _ now least

/-- The first stamp is always accepted, so only a clock that was fed nothing holds none. -/
theorem last_after_unset_eq_none_iff (least : Stamp) {stamps : List Stamp} :
    (unset.after least stamps).last = none ↔ stamps = [] := by
  constructor
  · intro hNone
    by_contra hSome
    obtain ⟨last, hLast, -⟩ := last_after_le unset least (List.getLast?_eq_some_getLast hSome)
    rw [hNone] at hLast
    cases hLast
  · rintro rfl
    rfl

/-- Without a warp the accepted stamp moves by the time that is reported: the sum telescopes. -/
theorem last_after_of_forward {c : DeltaClock} {start least : Stamp} (hStart : c.last = some start)
    {stamps : List Stamp} (hForward : .warp ∉ c.steps least stamps) :
    (c.after least stamps).last = some (start + total (c.steps least stamps)) := by
  induction stamps generalizing c start with
  | nil => exact hStart
  | cons now rest ih =>
      rw [steps, List.mem_cons, not_or] at hForward
      obtain ⟨hNow, hRest⟩ := hForward
      have hNext := last_feed_of_ne_warp hStart (Ne.symm hNow)
      rw [steps, total, ← Nat.add_assoc]
      exact ih hNext hRest

/-- A leg starts from an accepted stamp. -/
theorem LatestLeg.last_start {least start : Stamp} {before leg : List Stamp}
    (h : LatestLeg least before start leg) :
    (unset.after least (before ++ [start])).last = some start := by
  rw [after_append]
  show ((unset.after least before).feed start least).1.last = some start
  rcases h.starts with rfl | hWarp
  · rfl
  · exact last_feed_of_warp hWarp

/-- As soon as a stamp has been fed there is a leg. -/
theorem exists_latestLeg (least : Stamp) (past : List Stamp) (now : Stamp) :
    ∃ before start leg, past ++ [now] = before ++ start :: leg ∧
      LatestLeg least before start leg := by
  induction past using List.reverseRecOn generalizing now with
  | nil => exact ⟨[], now, [], rfl, .inl rfl, List.not_mem_nil⟩
  | append_singleton past previous ih =>
      obtain ⟨before, start, leg, hSplit, hLeg⟩ := ih previous
      rw [hSplit]
      by_cases hWarp : ((unset.after least (before ++ start :: leg)).feed now least).2 = .warp
      · exact ⟨before ++ start :: leg, now, [], rfl, .inr hWarp, List.not_mem_nil⟩
      · -- The leg to the stamp before goes on.
        refine ⟨before, start, leg ++ [now], by simp, hLeg.starts, ?_⟩
        rw [steps_append, ← after_append, List.append_assoc, List.mem_append, not_or]
        refine ⟨hLeg.forward, ?_⟩
        show .warp ∉ [((unset.after least (before ++ start :: leg)).feed now least).2]
        rw [List.mem_singleton]
        exact Ne.symm hWarp

/-- Whatever stamps a new clock is fed, a step is a warp if and only if its stamp is below the one
accepted last, a step with time has the least time or more, and a step without comes first or has
less than that since the stamp accepted last. At any point there is a latest leg, begun by the first
stamp or by the latest warp. The time reported on it is exactly that from its start to the stamp
accepted last, and with what is held back since then it is the time from its start to now. -/
theorem fedStamps_conserve_time (least : Stamp) :
    (∀ (past : List Stamp) (now : Stamp),
      let last? := (unset.accepted least past).getLast?
      let step := ((unset.after least past).feed now least).2
      (step = .warp ↔ ∃ last, last? = some last ∧ now < last) ∧
      (∀ span, step = .elapsed span → least ≤ span) ∧
      (step = .pending ↔ past = [] ∨ ∃ last, last? = some last ∧ last ≤ now ∧ now - last < least)) ∧
    (∀ (past : List Stamp) (now : Stamp), ∃ before start leg,
      past ++ [now] = before ++ start :: leg ∧ LatestLeg least before start leg) ∧
    ∀ (before : List Stamp) (start : Stamp) (leg : List Stamp), LatestLeg least before start leg →
      ∃ last, (unset.accepted least (before ++ start :: leg)).getLast? = some last ∧
        let now := (start :: leg).getLast (List.cons_ne_nil start leg)
        let reported := total ((unset.after least (before ++ [start])).steps least leg)
        start ≤ last ∧ last ≤ now ∧ reported = last - start ∧
        reported + (now - last) = now - start := by
  refine ⟨?_, exists_latestLeg least, ?_⟩
  · intro past now last? step
    have hLast : (unset.after least past).last = last? := last_after_unset least past
    refine ⟨?_, fun span hElapsed => le_span_of_elapsed hElapsed, ?_⟩
    · rw [← hLast]
      exact step_eq_warp_iff _ now least
    · rw [← last_after_unset_eq_none_iff least, ← hLast]
      exact step_eq_pending_iff _ now least
  · intro before start leg hLeg
    have hAfter : unset.after least (before ++ start :: leg) =
        (unset.after least (before ++ [start])).after least leg := by
      rw [← after_append, List.append_assoc, List.singleton_append]
    have hLast := last_after_of_forward hLeg.last_start hLeg.forward
    rw [← hAfter, last_after_unset] at hLast
    refine ⟨_, hLast, ?_⟩
    intro now reported
    have hNow : (before ++ start :: leg).getLast? = some now := by
      rw [List.getLast?_append, List.getLast?_eq_some_getLast (List.cons_ne_nil start leg)]
      rfl
    obtain ⟨last, hLast', hPast⟩ := last_after_le unset least hNow
    rw [last_after_unset, hLast] at hLast'
    obtain rfl : start + reported = last := Option.some.inj hLast'
    refine ⟨Nat.le_add_right start reported, hPast, (Nat.add_sub_cancel_left ..).symm, ?_⟩
    rw [Nat.sub_add_eq]
    exact Nat.add_sub_of_le (Nat.le_sub_of_add_le' hPast)

/-- The fifth of nine stamps is a warp. Before it and after it a stamp goes back a little, which is
held back like any small step and makes no difference to the time that is reported next. -/
theorem warpedStamps_conserve_time :
    let before := [10000, 10400, 10200, 10600]
    let leg := [5300, 5100, 45000, 45200]
    let reported := total ((unset.after 500 (before ++ [5000])).steps 500 leg)
    unset.steps 500 (before ++ 5000 :: leg) =
      [.pending, .pending, .pending, .elapsed 600, .warp, .pending, .pending, .elapsed 40000,
        .pending] ∧
    unset.accepted 500 (before ++ 5000 :: leg) = [10000, 10600, 5000, 45000] ∧ 500 ≤ 600 ∧
    LatestLeg 500 before 5000 leg ∧ reported = 45000 - 5000 ∧
    reported + (45200 - 45000) = 45200 - 5000 := by
  intro before leg reported
  obtain ⟨hSteps, -, hLegs⟩ := fedStamps_conserve_time 500
  have hLeast : 500 ≤ 600 := (hSteps [10000, 10400, 10200] 10600).2.1 600 rfl
  have hLeg : LatestLeg 500 before 5000 leg := ⟨.inr rfl, by decide⟩
  obtain ⟨last, hLast, -, -, hReported, hNow⟩ := hLegs before 5000 leg hLeg
  obtain rfl : 45000 = last := Option.some.inj hLast
  exact ⟨rfl, rfl, hLeast, hLeg, hReported, hNow⟩

end DeltaClock

end Soaring

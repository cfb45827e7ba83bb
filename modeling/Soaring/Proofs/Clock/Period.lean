import Mathlib.Data.List.Pairwise
import Soaring.Clock.Period

/-!
Period clocks over many checks. A check takes its time over, or leaves the clock as it is, and then
the time taken over last lies in the interval that ends now. While time does not go back this makes
the clock greedy: its firings are an interval or more apart, and every check is at a firing or less
than an interval after one.
-/
namespace Soaring.PeriodClock

/-- A check of a clock at a time, with the interval to be kept. -/
inductive Check where
  | plain (now interval : Stamp)
  /-- The check only starts a clock that has not started. -/
  | afterStart (now interval : Stamp)

def Check.now : Check → Stamp
  | plain now _ | afterStart now _ => now

def answer (c : PeriodClock) : Check → PeriodClock × Bool
  | .plain now interval => c.check now interval
  | .afterStart now interval => c.checkAfterStart now interval

def after (c : PeriodClock) (checks : List Check) : PeriodClock :=
  checks.foldl (fun c k => (c.answer k).1) c

def answers (c : PeriodClock) : List Check → List Bool
  | [] => []
  | k :: rest => (c.answer k).2 :: (c.answer k).1.answers rest

def firings (c : PeriodClock) (checks : List Check) : List Stamp :=
  ((checks.zip (c.answers checks)).filter (·.2)).map (·.1.now)

/-- The times that the clock takes over from some checks: those at which it fires or is started. -/
def accepted (c : PeriodClock) : List Check → List Stamp
  | [] => []
  | k :: rest =>
    let (next, fires) := c.answer k
    if fires || !c.isDefined then k.now :: next.accepted rest else next.accepted rest

/-- The clock is due if and only if it has not started, or time has gone back, or the interval is
over. -/
theorem isDue_iff (c : PeriodClock) (now interval : Stamp) :
    c.isDue now interval = true ↔
      c.last = none ∨ ∃ last, c.last = some last ∧ (now < last ∨ last + interval ≤ now) := by
  unfold isDue
  cases c.last with
  | none => simp
  | some last =>
      rw [Bool.or_eq_true, decide_eq_true_iff, decide_eq_true_iff]
      constructor
      · intro h
        exact .inr ⟨last, rfl, by grind⟩
      · rintro (hNone | ⟨_, hLast, hDue⟩)
        · cases hNone
        · cases hLast
          grind

/-- A plain check fires the first time, when time has gone back, and when the interval is over. -/
theorem check_fires_iff (c : PeriodClock) (now interval : Stamp) :
    (c.check now interval).2 = true ↔
      c.last = none ∨ ∃ last, c.last = some last ∧ (now < last ∨ last + interval ≤ now) := by
  rw [← isDue_iff, check]
  cases c.isDue now interval <;> simp

/-- All that a check can come to: the clock fires, or it is started, or the time taken over last
is not later and stays. -/
theorem answer_cases (c : PeriodClock) (k : Check) :
    c.answer k = (⟨some k.now⟩, true) ∨
    (c.last = none ∧ c.answer k = (⟨some k.now⟩, false)) ∨
    ∃ last, c.last = some last ∧ last ≤ k.now ∧ c.answer k = (c, false) := by
  have hCheck (now interval : Stamp) : c.check now interval = (⟨some now⟩, true) ∨
      ∃ last, c.last = some last ∧ last ≤ now ∧ c.check now interval = (c, false) := by
    unfold check
    by_cases hDue : c.isDue now interval = true
    · exact .inl (if_pos hDue)
    · rw [if_neg hDue]
      rw [isDue_iff] at hDue
      cases hLast : c.last with
      | none => exact absurd (.inl hLast) hDue
      | some last =>
          refine .inr ⟨last, rfl, Nat.le_of_not_lt fun hBack => ?_, rfl⟩
          exact hDue (.inr ⟨last, hLast, .inl hBack⟩)
  cases k with
  | plain now interval => exact (hCheck now interval).imp_right .inr
  | afterStart now interval =>
      cases hLast : c.last with
      | none => exact .inr (.inl ⟨rfl, by simp [answer, checkAfterStart, hLast, Check.now]⟩)
      | some last =>
          have hSame : c.answer (.afterStart now interval) = c.check now interval := by
            simp [answer, checkAfterStart, hLast]
          rw [hSame, ← hLast]
          exact (hCheck now interval).imp_right .inr

/-- After a check the time taken over last is that of the check or an earlier one. -/
theorem last_answer_le (c : PeriodClock) (k : Check) :
    ∃ last, (c.answer k).1.last = some last ∧ last ≤ k.now := by
  rcases c.answer_cases k with hFires | ⟨-, hStarts⟩ | ⟨last, hLast, hLe, hStays⟩
  · exact ⟨k.now, by rw [hFires], Nat.le_refl _⟩
  · exact ⟨k.now, by rw [hStarts], Nat.le_refl _⟩
  · exact ⟨last, by rw [hStays]; exact hLast, hLe⟩

/-- A clock knows the time that it took over last. -/
theorem last_after (c : PeriodClock) (checks : List Check) :
    (c.after checks).last = (c.accepted checks).getLast?.or c.last := by
  induction checks generalizing c with
  | nil => rfl
  | cons k rest ih =>
      change ((c.answer k).1.after rest).last = _
      rw [ih, accepted]
      rcases c.answer_cases k with hFires | ⟨hNone, hStarts⟩ | ⟨last, hLast, -, hStays⟩
      · rw [hFires]
        simp only [Bool.true_or, if_true, List.getLast?_cons]
        cases ((⟨some k.now⟩ : PeriodClock).accepted rest).getLast? <;> rfl
      · rw [hStarts]
        simp only [isDefined, hNone, Option.isSome_none, Bool.not_false, Bool.or_true, if_true,
          List.getLast?_cons]
        cases ((⟨some k.now⟩ : PeriodClock).accepted rest).getLast? <;> rfl
      · rw [hStays]
        simp [isDefined, hLast]

/-- The clock holds the last time that it has taken over. -/
theorem last_after_unset (checks : List Check) :
    (unset.after checks).last = (unset.accepted checks).getLast? := by
  rw [last_after]
  exact Option.or_none

theorem firings_cons (c : PeriodClock) (k : Check) (rest : List Check) :
    c.firings (k :: rest) =
      (if (c.answer k).2 then [k.now] else []) ++ (c.answer k).1.firings rest := by
  unfold firings
  rw [answers, List.zip_cons_cons]
  cases hFires : (c.answer k).2 <;> simp

/-- A clock that has not started fires at the first check. -/
theorem firings_unset (interval first : Stamp) (rest : List Stamp) :
    unset.firings ((first :: rest).map (.plain · interval)) =
      first :: (⟨some first⟩ : PeriodClock).firings (rest.map (.plain · interval)) := by
  rw [List.map_cons, firings_cons]
  rfl

/-- A clock that has started does not tell the two kinds of checks apart. -/
theorem answers_of_started (c : PeriodClock) (hStarted : c.last ≠ none) (interval : Stamp)
    (times : List Stamp) :
    c.answers (times.map (.afterStart · interval)) = c.answers (times.map (.plain · interval)) := by
  induction times generalizing c with
  | nil => rfl
  | cons now rest ih =>
      have hSame : c.answer (.afterStart now interval) = c.answer (.plain now interval) := by
        cases hLast : c.last with
        | none => exact absurd hLast hStarted
        | some last => simp [answer, checkAfterStart, hLast]
      have hNext : (c.answer (.plain now interval)).1.last ≠ none := by
        obtain ⟨last, hLast, -⟩ := c.last_answer_le (.plain now interval)
        rw [hLast]
        exact Option.some_ne_none last
      rw [List.map_cons, List.map_cons, answers, answers, hSame, ih _ hNext]

/-- While time does not go back, a clock that has started fires as soon as the interval is over. -/
theorem answer_plain {last now : Stamp} (hPast : last ≤ now) (interval : Stamp) :
    (⟨some last⟩ : PeriodClock).answer (.plain now interval) =
      if last + interval ≤ now then (⟨some now⟩, true) else (⟨some last⟩, false) := by
  have hDue : (⟨some last⟩ : PeriodClock).isDue now interval = true ↔ last + interval ≤ now := by
    rw [isDue_iff]
    constructor
    · rintro (hNone | ⟨_, hLast, hBack | hOver⟩)
      · cases hNone
      · cases hLast
        exact absurd hBack (Nat.not_lt.mpr hPast)
      · cases hLast
        exact hOver
    · exact fun hOver => .inr ⟨last, rfl, .inr hOver⟩
  rw [answer, check]
  by_cases hOver : last + interval ≤ now
  · rw [if_pos hOver, if_pos (hDue.mpr hOver)]
  · rw [if_neg hOver, if_neg (mt hDue.mp hOver)]

/-- Some of the times are chosen at least an interval apart, and each of the times is a chosen one
or less than an interval after one. -/
structure Greedy (interval : Stamp) (times chosen : List Stamp) : Prop where
  spaced : chosen.Pairwise fun s t => s + interval ≤ t
  covered : ∀ t ∈ times, ∃ s ∈ chosen, s ≤ t ∧ t < s + interval
  mem : ∀ s ∈ chosen, s ∈ times

section

variable {interval : Stamp} {times chosen : List Stamp}

theorem greedy_singleton (hInterval : 1 ≤ interval) (first : Stamp) :
    Greedy interval [first] [first] := by
  refine ⟨List.pairwise_singleton _ _, ?_, fun _ h => h⟩
  intro t ht
  obtain rfl := List.mem_singleton.mp ht
  exact ⟨t, ht, Nat.le_refl t, Nat.lt_add_of_pos_right hInterval⟩

/-- A time comes first that the next chosen one follows by an interval. -/
theorem Greedy.cons_chosen {first next : Stamp}
    (h : Greedy interval (next :: times) (next :: chosen)) (hInterval : 1 ≤ interval)
    (hOver : first + interval ≤ next) :
    Greedy interval (first :: next :: times) (first :: next :: chosen) := by
  refine ⟨List.pairwise_cons.mpr ⟨?_, h.spaced⟩, ?_, ?_⟩
  · intro t ht
    rcases List.mem_cons.mp ht with rfl | hLater
    · exact hOver
    · have hNext := (List.pairwise_cons.mp h.spaced).1 t hLater
      exact Nat.le_trans hOver (Nat.le_of_add_right_le hNext)
  · intro t ht
    rcases List.mem_cons.mp ht with rfl | hLater
    · exact ⟨t, List.mem_cons_self .., Nat.le_refl t, Nat.lt_add_of_pos_right hInterval⟩
    · obtain ⟨s, hs, hNear⟩ := h.covered t hLater
      exact ⟨s, List.mem_cons_of_mem _ hs, hNear⟩
  · intro s hs
    rcases List.mem_cons.mp hs with rfl | hLater
    · exact List.mem_cons_self ..
    · exact List.mem_cons_of_mem _ (h.mem s hLater)

/-- A time comes second that is less than an interval after the first one, and is not chosen. -/
theorem Greedy.cons_skipped {first now : Stamp}
    (h : Greedy interval (first :: times) (first :: chosen)) (hPast : first ≤ now)
    (hNear : now < first + interval) :
    Greedy interval (first :: now :: times) (first :: chosen) := by
  refine ⟨h.spaced, ?_, ?_⟩
  · intro t ht
    rcases List.mem_cons.mp ht with rfl | hLater
    · exact h.covered t (List.mem_cons_self ..)
    · rcases List.mem_cons.mp hLater with rfl | hLatest
      · exact ⟨first, List.mem_cons_self .., hPast, hNear⟩
      · exact h.covered t (List.mem_cons_of_mem _ hLatest)
  · intro s hs
    rcases List.mem_cons.mp (h.mem s hs) with rfl | hLater
    · exact List.mem_cons_self ..
    · exact List.mem_cons_of_mem _ (List.mem_cons_of_mem _ hLater)

/-- From a firing on, and while time does not go back, the clock chooses greedily. -/
theorem greedy_firings (hInterval : 1 ≤ interval) (last : Stamp) (times : List Stamp)
    (hOrder : (last :: times).Pairwise (· ≤ ·)) :
    Greedy interval (last :: times)
      (last :: (⟨some last⟩ : PeriodClock).firings (times.map (.plain · interval))) := by
  induction times generalizing last with
  | nil => exact greedy_singleton hInterval last
  | cons now rest ih =>
      obtain ⟨hFirst, hRest⟩ := List.pairwise_cons.mp hOrder
      have hPast : last ≤ now := hFirst now (List.mem_cons_self ..)
      rw [List.map_cons, firings_cons, answer_plain hPast]
      by_cases hOver : last + interval ≤ now
      · rw [if_pos hOver]
        exact (ih now hRest).cons_chosen hInterval hOver
      · rw [if_neg hOver]
        have hShort : (last :: rest).Pairwise (· ≤ ·) :=
          hOrder.sublist ((List.sublist_cons_self now rest).cons_cons last)
        exact (ih last hShort).cons_skipped hPast (Nat.lt_of_not_le hOver)

/-- A time is less than an interval after at most one chosen time, which is the latest one that has
come. -/
theorem Greedy.latest (h : Greedy interval times chosen) {s t u : Stamp}
    (hs : s ∈ chosen) (hNear : t < s + interval) (hu : u ∈ chosen) (hPast : u ≤ t) : u ≤ s := by
  by_contra hLater
  have hApart : chosen.Pairwise fun a b => a + interval ≤ b ∨ b + interval ≤ a :=
    h.spaced.imp .inl
  have hSymm : Std.Symm fun a b : Stamp => a + interval ≤ b ∨ b + interval ≤ a :=
    ⟨fun _ _ => Or.symm⟩
  have hDistinct : s ≠ u := fun hSame => hLater (Nat.le_of_eq hSame.symm)
  rcases hApart.forall hs hu hDistinct with hAfter | hBefore
  · exact absurd (Nat.le_trans hAfter hPast) (Nat.not_le.mpr hNear)
  · exact hLater (Nat.le_of_add_right_le hBefore)

/-- Times that are an interval apart need room. -/
theorem mul_length_le_of_spaced {first top : Stamp}
    (hSpaced : (first :: chosen).Pairwise fun s t => s + interval ≤ t)
    (hTop : ∀ s ∈ first :: chosen, s ≤ top) : first + interval * chosen.length ≤ top := by
  induction chosen generalizing first with
  | nil => simpa using hTop
  | cons second rest ih =>
      obtain ⟨hFirst, hRest⟩ := List.pairwise_cons.mp hSpaced
      have hNext := hFirst second (List.mem_cons_self ..)
      have hLeft := ih hRest fun s hs => hTop s (List.mem_cons_of_mem _ hs)
      rw [List.length_cons, Nat.mul_succ]
      grind

/-- The time from first to last bounds how many are chosen. -/
theorem Greedy.length_le {first : Stamp} (h : Greedy interval (first :: times) (first :: chosen))
    (hInterval : 1 ≤ interval) (hOrder : (first :: times).Pairwise (· ≤ ·)) :
    (first :: chosen).length ≤
      ((first :: times).getLast (List.cons_ne_nil _ _) - first) / interval + 1 := by
  have hTop : ∀ s ∈ first :: chosen, s ≤ (first :: times).getLast (List.cons_ne_nil _ _) := by
    intro s hs
    exact hOrder.rel_getLast (h.mem s hs)
  rw [List.length_cons, Nat.add_le_add_iff_right, Nat.le_div_iff_mul_le hInterval, Nat.mul_comm]
  exact Nat.le_sub_of_add_le' (mul_length_le_of_spaced h.spaced hTop)

end

/-- A clock that has not started, checked at times that do not go back, fires at the first of them,
at times that are an interval or more apart, and each time is less than an interval after the latest
firing that has come; so the time from first to last bounds their number. Checks that only start the
clock give the same answers, but for the first. After any checks of both kinds, with times and
intervals as they may be, a check fires if and only if no time was taken over before, or it is
before the last one that was, or the interval or more after it; and no check leaves a later time
than its own behind. -/
theorem checks_fire_greedily :
    (∀ (interval first : Stamp) (rest : List Stamp),
      1 ≤ interval → (first :: rest).Pairwise (· ≤ ·) →
      let times := first :: rest
      let fired := unset.firings (times.map (.plain · interval))
      fired.head? = some first ∧
      fired.Pairwise (fun s t => s + interval ≤ t) ∧
      (∀ t ∈ times, ∃ s ∈ fired, s ≤ t ∧ t < s + interval ∧ ∀ u ∈ fired, u ≤ t → u ≤ s) ∧
      fired.length ≤ (times.getLast (List.cons_ne_nil first rest) - first) / interval + 1 ∧
      ∃ later, unset.answers (times.map (.plain · interval)) = true :: later ∧
        unset.answers (times.map (.afterStart · interval)) = false :: later) ∧
    ∀ checks : List Check,
      let past := unset.accepted checks
      (∀ now interval, ((unset.after checks).check now interval).2 = true ↔
        past = [] ∨ ∃ last, past.getLast? = some last ∧ (now < last ∨ last + interval ≤ now)) ∧
      ∀ k : Check,
        ∃ last, (unset.accepted (checks ++ [k])).getLast? = some last ∧ last ≤ k.now := by
  constructor
  · intro interval first rest hInterval hOrder times fired
    have hGreedy := greedy_firings hInterval first rest hOrder
    have hFired : fired = _ := firings_unset interval first rest
    rw [hFired]
    refine ⟨rfl, hGreedy.spaced, ?_, hGreedy.length_le hInterval hOrder, ?_⟩
    · intro t ht
      obtain ⟨s, hs, hPast, hNear⟩ := hGreedy.covered t ht
      exact ⟨s, hs, hPast, hNear, fun u hu hUp => hGreedy.latest hs hNear hu hUp⟩
    · have hSame := answers_of_started ⟨some first⟩ (Option.some_ne_none _) interval rest
      exact ⟨_, rfl, congrArg (false :: ·) hSame⟩
  · intro checks past
    constructor
    · intro now interval
      rw [check_fires_iff, last_after_unset, List.getLast?_eq_none_iff]
    · intro k
      rw [← last_after_unset, after, List.foldl_append]
      exact last_answer_le _ k

/-- Of five checks that are sometimes too early three fire, which is as many as there is room for. A
clock that is only started does not fire, but it does when time then goes back. -/
theorem fiveChecks_fire_greedily :
    let times := [0, 400, 500, 900, 1100]
    let fired := unset.firings (times.map (.plain · 500))
    1 ≤ 500 ∧ times.Pairwise (· ≤ ·) ∧ fired = [0, 500, 1100] ∧
    fired.Pairwise (fun s t => s + 500 ≤ t) ∧ fired.length ≤ (1100 - 0) / 500 + 1 ∧
    unset.answers (times.map (.afterStart · 500)) = [false, false, true, false, true] ∧
    ((unset.after [.afterStart 1000 500]).check 200 500).2 = true := by
  intro times fired
  obtain ⟨hOrdered, hAny⟩ := checks_fire_greedily
  obtain ⟨-, hSpaced, -, hCount, -⟩ :=
    hOrdered 500 0 [400, 500, 900, 1100] (by decide) (by decide)
  refine ⟨by decide, by decide, rfl, hSpaced, hCount, rfl, ?_⟩
  exact ((hAny [.afterStart 1000 500]).1 200 500).mpr (.inr ⟨1000, rfl, .inl (by decide)⟩)

end Soaring.PeriodClock

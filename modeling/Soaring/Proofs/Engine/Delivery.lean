import Mathlib.Data.List.DropRight
import Soaring.Proofs.Engine.Effects

/-!
What becomes of events. The queue gives events out in the order in which they came in. A push into a
full queue loses the oldest event and notes it, and that is the only way to lose one. So every event
that was pushed has been delivered, waits, or is named by a warning.
-/
namespace Soaring

namespace EventQueue

/-- A push loses the event that overflows and no other, and puts its own behind the rest. -/
theorem overflow_append_push (q : EventQueue) (event : Event) :
    q.pending ++ [event] = q.overflow?.toList ++ (q.push event).pending := by
  have hLength := q.length_le
  unfold overflow? push
  by_cases hRoom : q.pending.length < maxPendingEvents
  · rw [if_neg (Nat.ne_of_lt hRoom), dif_pos hRoom]
    rfl
  · have hFull : q.pending.length = maxPendingEvents := by omega
    rw [if_pos hFull, dif_neg hRoom]
    change q.pending ++ [event] = q.pending.head?.toList ++ (q.pending.tail ++ [event])
    cases hPending : q.pending with
    | nil =>
        rw [hPending] at hFull
        exact absurd hFull (by decide)
    | cons oldest rest => rfl

/-- A queue holds the latest events, as many as there is room for. -/
theorem pending_push (q : EventQueue) (event : Event) :
    (q.push event).pending = (q.pending ++ [event]).rtake maxPendingEvents := by
  have hLength := q.length_le
  unfold push List.rtake
  by_cases hRoom : q.pending.length < maxPendingEvents
  · have hAll : (q.pending ++ [event]).length - maxPendingEvents = 0 := by simp; omega
    rw [dif_pos hRoom, hAll, List.drop_zero]
  · have hOne : (q.pending ++ [event]).length - maxPendingEvents = 1 := by simp; omega
    have hSome : q.pending ≠ [] := by
      rintro hNone
      rw [hNone] at hRoom
      exact hRoom (by decide)
    rw [dif_neg hRoom, hOne, List.drop_one, List.tail_append_of_ne_nil hSome]

/-- The event just pushed is the last one to wait. -/
theorem getLast?_push (q : EventQueue) (event : Event) :
    (q.push event).pending.getLast? = some event := by
  unfold push
  split <;> exact List.getLast?_concat

/-- The oldest waiting event is taken first, and the others wait on in their order. -/
theorem pop?_eq_some_iff {q rest : EventQueue} {event : Event} :
    q.pop? = some (event, rest) ↔ q.pending = event :: rest.pending := by
  obtain ⟨pending, hLength⟩ := q
  obtain ⟨left, hLeft⟩ := rest
  cases pending with
  | nil => simp [pop?]
  | cons oldest others => simp [pop?]

theorem pop?_eq_none_iff {q : EventQueue} : q.pop? = none ↔ q.pending = [] := by
  obtain ⟨pending, hLength⟩ := q
  cases pending <;> simp [pop?]

/-- Draining gives out the oldest events, up to the limit, and leaves the others. -/
theorem drain_eq (q : EventQueue) (limit : Nat) :
    (q.drain limit).1 = q.pending.take limit ∧
    (q.drain limit).2.pending = q.pending.drop limit := by
  induction limit generalizing q with
  | zero => exact ⟨rfl, rfl⟩
  | succ limit ih =>
      unfold drain
      cases hPop : q.pop? with
      | none =>
          have hEmpty := pop?_eq_none_iff.mp hPop
          simp [hEmpty]
      | some popped =>
          obtain ⟨event, rest⟩ := popped
          have hPending := pop?_eq_some_iff.mp hPop
          simp [hPending, ih rest]

end EventQueue

def Entry.lost? : Entry → Option Event
  | .note (.eventDropped lost) => some lost
  | _ => none

inductive QueueUse where
  | push (event : Event)
  /-- The caller takes what waits, and may stop when it has had a number of events. -/
  | drain (limit : Option Nat)

def QueueUse.pushed? : QueueUse → Option Event
  | push event => some event
  | drain _ => none

namespace Engine

variable {Memory : Type}

/-- The events whose loss the current operation has warned of, in order. -/
def lost (e : Engine Memory) : List Event := e.journal.filterMap Entry.lost?

/-- Uses the event queue, and gives out what the caller takes. -/
def useQueue (e : Engine Memory) : QueueUse → Engine Memory × List Event
  | .push event => (e.record event, [])
  | .drain limit => e.drainEvents limit

def useQueueAll (e : Engine Memory) : List QueueUse → Engine Memory × List Event
  | [] => (e, [])
  | use :: rest =>
    let (after, taken) := e.useQueue use
    let (last, more) := after.useQueueAll rest
    (last, taken ++ more)

/-- Between two states of an engine, some events were pushed and some delivered. The events that
have left the queue did so in the order in which they had come in, and those that the caller did not
get, which is marked, were warned of. -/
structure Passes (e last : Engine Memory) (pushed delivered : List Event)
    (gone : List (Event × Bool)) : Prop where
  order : e.events.pending ++ pushed = gone.map Prod.fst ++ last.events.pending
  delivered : (gone.filter (·.2)).map Prod.fst = delivered
  lost : last.lost = e.lost ++ (gone.filter (!·.2)).map Prod.fst

/-- Two stretches one after the other: what was pushed, delivered and lost adds up in order. -/
theorem Passes.trans {e mid last : Engine Memory} {pushed more delivered rest : List Event}
    {gone later : List (Event × Bool)} (h : e.Passes mid pushed delivered gone)
    (hRest : mid.Passes last more rest later) :
    e.Passes last (pushed ++ more) (delivered ++ rest) (gone ++ later) := by
  refine ⟨?_, ?_, ?_⟩
  · rw [← List.append_assoc, h.order, List.append_assoc, hRest.order, ← List.append_assoc,
      List.map_append]
  · rw [List.filter_append, List.map_append, h.delivered, hRest.delivered]
  · rw [hRest.lost, h.lost, List.append_assoc, List.filter_append, List.map_append]

/-- A push loses the event that it reports as overflow, and no other. -/
theorem lost_record (e : Engine Memory) (event : Event) :
    (e.record event).lost = e.lost ++ e.events.overflow?.toList := by
  change (e.journal ++ _).filterMap Entry.lost? = _
  rw [List.filterMap_append]
  cases e.events.overflow? <;> rfl

/-- Draining is taking from the front of what waits, up to the limit if there is one. -/
theorem drainEvents_eq (e : Engine Memory) (limit : Option Nat) :
    let count := limit.getD e.events.pending.length
    (e.drainEvents limit).2 = e.events.pending.take count ∧
    (e.drainEvents limit).1.events.pending = e.events.pending.drop count ∧
    (e.drainEvents limit).1.lost = e.lost :=
  ⟨(e.events.drain_eq _).1, (e.events.drain_eq _).2, rfl⟩

/-- A use lets go of the event that overflows, or of those that the caller takes. -/
theorem passes_useQueue (e : Engine Memory) (use : QueueUse) :
    ∃ gone, e.Passes (e.useQueue use).1 use.pushed?.toList (e.useQueue use).2 gone := by
  cases use with
  | push event =>
      refine ⟨e.events.overflow?.toList.map (·, false), ?_, ?_, ?_⟩
      · change e.events.pending ++ [event] = _ ++ (e.events.push event).pending
        simpa [Function.comp_def] using e.events.overflow_append_push event
      · cases e.events.overflow? <;> rfl
      · change (e.record event).lost = _
        rw [lost_record]
        cases e.events.overflow? <;> rfl
  | drain limit =>
      obtain ⟨hTaken, hLeft, hLost⟩ := e.drainEvents_eq limit
      refine ⟨(e.drainEvents limit).2.map (·, true), ?_, ?_, ?_⟩
      · change e.events.pending ++ [] = _ ++ (e.drainEvents limit).1.events.pending
        rw [hLeft, hTaken]
        simp [Function.comp_def]
      · change _ = (e.drainEvents limit).2
        simp [List.filter_map, Function.comp_def]
      · change (e.drainEvents limit).1.lost = _
        rw [hLost]
        simp [List.filter_map, Function.comp_def]

/-- The account of pushed, delivered and lost events adds up over any sequence of uses. -/
theorem passes_useQueueAll (e : Engine Memory) (uses : List QueueUse) :
    ∃ gone, e.Passes (e.useQueueAll uses).1 (uses.filterMap QueueUse.pushed?)
      (e.useQueueAll uses).2 gone := by
  induction uses generalizing e with
  | nil => exact ⟨[], List.append_nil _, rfl, (List.append_nil _).symm⟩
  | cons use rest ih =>
      obtain ⟨gone, hUse⟩ := e.passes_useQueue use
      obtain ⟨later, hRest⟩ := ih (e.useQueue use).1
      have hPushed : (use :: rest).filterMap QueueUse.pushed? =
          use.pushed?.toList ++ rest.filterMap QueueUse.pushed? := by
        cases use <;> rfl
      refine ⟨gone ++ later, ?_⟩
      rw [hPushed]
      exact hUse.trans hRest

/-- The event queue loses its oldest events and no others. However it was used, with the events that
waited at first counted as pushed: those that have left it are the first of the pushed ones, each of
them delivered or named by a warning, and the rest waits. So what was delivered was pushed in that
order, and the numbers add up. A further push leaves the last sixteen of what waited and its own
event, which is always among them, and warns of what it loses. A pop gives out the oldest event, and
none if none waits, and draining pops up to the number that the caller wants. -/
theorem usedQueue_delivers_in_order (e : Engine Memory) (uses : List QueueUse) :
    let last := (e.openJournal.useQueueAll uses).1
    let delivered := (e.openJournal.useQueueAll uses).2
    let pushed := e.events.pending ++ uses.filterMap QueueUse.pushed?
    (∃ gone : List (Event × Bool), pushed = gone.map Prod.fst ++ last.events.pending ∧
      (gone.filter (·.2)).map Prod.fst = delivered ∧
      (gone.filter (!·.2)).map Prod.fst = last.lost) ∧
    delivered.Sublist pushed ∧
    pushed.length = delivered.length + last.events.pending.length + last.lost.length ∧
    (∀ event,
      let next := last.record event
      next.events.pending = (last.events.pending ++ [event]).rtake 16 ∧
      next.events.pending.getLast? = some event ∧
      ∃ dropped, last.events.pending ++ [event] = dropped ++ next.events.pending ∧
        next.lost = last.lost ++ dropped) ∧
    (last.events.pop? = none ↔ last.events.pending = []) ∧
    (∀ event rest, last.events.pop? = some (event, rest) ↔
      last.events.pending = event :: rest.pending) ∧
    ∀ limit,
      let count := limit.getD last.events.pending.length
      (last.drainEvents limit).2 = last.events.pending.take count ∧
      (last.drainEvents limit).1.events.pending = last.events.pending.drop count := by
  intro last delivered pushed
  obtain ⟨gone, hOrder, hDelivered, hLost⟩ := e.openJournal.passes_useQueueAll uses
  -- A journal that has just been opened holds no warning, so all of them are of these uses.
  have hOrder : pushed = gone.map Prod.fst ++ last.events.pending := hOrder
  have hLost : (gone.filter (!·.2)).map Prod.fst = last.lost := hLost.symm
  have hDelivered : (gone.filter (·.2)).map Prod.fst = delivered := hDelivered
  refine ⟨⟨gone, hOrder, hDelivered, hLost⟩, ?_, ?_, ?_, EventQueue.pop?_eq_none_iff,
    fun _ _ => EventQueue.pop?_eq_some_iff, ?_⟩
  · rw [hOrder, ← hDelivered]
    exact (List.filter_sublist.map Prod.fst).trans (List.sublist_append_left _ _)
  · have hSplit : gone.length = (gone.filter (·.2)).length + (gone.filter (!·.2)).length :=
      List.length_eq_length_filter_add _
    rw [hOrder, ← hDelivered, ← hLost, List.length_append, List.length_map, List.length_map,
      List.length_map, hSplit]
    omega
  · intro event next
    refine ⟨last.events.pending_push event, last.events.getLast?_push event,
      last.events.overflow?.toList, last.events.overflow_append_push event, last.lost_record event⟩
  · intro limit count
    obtain ⟨hTaken, hLeft, -⟩ := last.drainEvents_eq limit
    exact ⟨hTaken, hLeft⟩

end Engine

end Soaring

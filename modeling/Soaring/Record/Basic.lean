import Soaring.Record.Layout
import Soaring.Situation.Basic

/-!
The layouts of the values that records are made of: words, times, places, ids and team codes.
-/
namespace Soaring.Record

namespace Layout

def word8 : Layout UInt8 :=
  .refined .natural (fun n => if n < UInt8.size then some n.toUInt8 else none) UInt8.toNat
    fun value => by simp [value.toNat_lt]

def word16 : Layout UInt16 :=
  .refined .natural (fun n => if n < UInt16.size then some n.toUInt16 else none) UInt16.toNat
    fun value => by simp [value.toNat_lt]

def word32 : Layout UInt32 :=
  .refined .natural (fun n => if n < UInt32.size then some n.toUInt32 else none) UInt32.toNat
    fun value => by simp [value.toNat_lt]

def signedWord32 : Layout Int32 :=
  .refined .integer
    (fun n =>
      if Int32.minValue.toInt ≤ n ∧ n ≤ Int32.maxValue.toInt then some (.ofInt n) else none)
    Int32.toInt fun value => by
      have low : Int32.minValue.toInt ≤ value.toInt := value.le_toInt
      have high : value.toInt ≤ Int32.maxValue.toInt := Int.le_of_lt_add_one value.toInt_lt
      simp only [low, high, and_self, if_true, Int32.ofInt_toInt]

def stamp : Layout Stamp := .natural

/-- The fields of a record whose values are packed into a structure. -/
def record {τ α : Type} (fields : Fields τ) (pack : τ → α) (unpack : α → τ)
    (pack_unpack : ∀ value, pack (unpack value) = value) : Layout α :=
  .refined (.fields false fields) (fun values => some (pack values)) unpack
    fun value => by rw [pack_unpack]

def gate : Layout Gate :=
  record (.cons "last_update" (.optional stamp) .nil) (fun (stamp, _) => ⟨stamp⟩)
    (fun g => (g.stamp, ())) fun _ => rfl

/-- A duration as seconds and nanoseconds. Nanoseconds in excess of a second count to it. -/
def duration : Layout Duration :=
  .refined (.fields true (.cons "secs" .natural (.cons "nanos" word32 .nil)))
    (fun (seconds, nanos, _) =>
      Duration.ofNanoseconds? (seconds * nanosPerSecond + nanos.toNat))
    (fun d => (d.seconds, d.subsecond.toUInt32, ()))
    fun value => by
      have small : value.nanoseconds % nanosPerSecond < UInt32.size :=
        Nat.lt_trans (Nat.mod_lt _ (by decide)) (by decide)
      have whole : value.seconds * nanosPerSecond + value.subsecond.toUInt32.toNat =
          value.nanoseconds := by
        have back : value.subsecond.toUInt32.toNat = value.nanoseconds % nanosPerSecond :=
          Nat.mod_eq_of_lt small
        rw [back, Duration.seconds, Nat.mul_comm, Nat.div_add_mod]
      simp only [whole, Duration.ofNanoseconds?, value.lt_limit, dite_true]

def date : Layout Calendar.Date :=
  record (.cons "year" word16 (.cons "month" word8 (.cons "day" word8 .nil)))
    (fun (year, month, day, _) => ⟨year, month, day⟩) (fun d => (d.year, d.month, d.day, ()))
    fun _ => rfl

def timeOfDay : Layout Calendar.TimeOfDay :=
  record (.cons "hour" word8 (.cons "minute" word8 (.cons "second" word8 .nil)))
    (fun (hour, minute, second, _) => ⟨hour, minute, second⟩)
    (fun t => (t.hour, t.minute, t.second, ())) fun _ => rfl

def dateTime : Layout Calendar.DateTime :=
  record (.cons "date" date (.cons "time" timeOfDay (.cons "valid" .boolean .nil)))
    (fun (date, time, valid, _) => ⟨date, time, valid⟩) (fun t => (t.date, t.time, t.valid, ()))
    fun _ => rfl

def point : Layout Geo.Point :=
  record (.cons "latitude" .float (.cons "longitude" .float .nil))
    (fun (latitude, longitude, _) => ⟨latitude, longitude⟩)
    (fun p => (p.latitude, p.longitude, ())) fun _ => rfl

def course : Layout Geo.Course :=
  record (.cons "distance" .float (.cons "bearing" .float .nil))
    (fun (distance, bearing, _) => ⟨distance, bearing⟩)
    (fun c => (c.distance, c.bearing, ())) fun _ => rfl

/-- A device address. It is not checked whether a device can have it. -/
def flarmId : Layout FlarmId :=
  .refined word32 (fun value => some ⟨value⟩) FlarmId.value fun _ => rfl

def waypointId : Layout WaypointId :=
  .refined word32 (fun value => some ⟨value⟩) WaypointId.value fun _ => rfl

end Layout

end Soaring.Record

/-!
Gates: the stamps that tell whether a derived value may still be used. A gate holds the time of the
last update of the value it guards; it is valid from then on, until it is found too old or the
clock has moved to before it.
-/
namespace Soaring

/-- A time in milliseconds. The sample clock and GPS time are both counted so, from different
origins. -/
abbrev Stamp := Nat

/-- The stamp of a value's last update, if the value may be used at all. -/
structure Gate where
  stamp : Option Stamp
  deriving DecidableEq, Inhabited

namespace Gate

/-- The gate of a value that was never written. -/
def closed : Gate := ⟨none⟩

def updatedAt (now : Stamp) : Gate := ⟨some now⟩

/-- The value may be used. -/
def isValid (g : Gate) : Bool := g.stamp.isSome

/-- The last update is not in the future and at most `maxAge` old. -/
def isFresh (g : Gate) (now maxAge : Stamp) : Bool :=
  match g.stamp with
  | some t => t ≤ now && now - t ≤ maxAge
  | none => false

def expire (g : Gate) (now maxAge : Stamp) : Gate :=
  if g.isFresh now maxAge then g else closed

/-- The value was written after the other one; any update comes after none. -/
def modifiedSince (g other : Gate) : Bool :=
  match g.stamp, other.stamp with
  | some t, some s => s < t
  | some _, none => true
  | none, _ => false

end Gate

end Soaring

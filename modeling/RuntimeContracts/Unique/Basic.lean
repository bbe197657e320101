import RuntimeContracts.Run.Basic
import RuntimeContracts.Violation

/-!
# Values read once

A unique slot gives its value to one read and is empty from then on, until it is filled again.
-/

namespace RuntimeContracts

structure Unique (V : Type) where
  slot : Option V
deriving DecidableEq, Repr

namespace Unique

variable {V ε : Type}

def new (value : V) : Unique V := ⟨some value⟩

def empty : Unique V := ⟨none⟩

def isEmpty (unique : Unique V) : Bool := unique.slot.isNone

/-- The value together with the slot that the read leaves behind. -/
def read (unique : Unique V) : Run Violation (V × Unique V) :=
  match unique.slot with
  | some value => return (value, empty)
  | none => Run.refuse .alreadyConsumed

/-- A value that nobody has read is overwritten, which is reported. -/
def fill (unique : Unique V) (value : V) : Run ε (Unique V) := do
  if unique.slot.isSome then Run.report .slotOverwritten
  return new value

def shape [Describe V] (unique : Unique V) : Shape :=
  .closedRecord "Unique" [("slot", match unique.slot with
    | some value => .tuple "Some" [Describe.shape value]
    | none => .word "None")]

instance [Describe V] : Describe (Unique V) := ⟨shape⟩

end Unique
end RuntimeContracts

import RuntimeContracts.Predicate.Basic
import RuntimeContracts.Violation

/-!
# Values written in sequence

A linear value takes each write against the next predicate of a sequence, and each predicate is
consumed by the write that it accepts. When the sequence is exhausted, an exact value refuses every
write and an inexact one takes any.
-/

namespace RuntimeContracts

inductive Strictness where
  | exact
  | inexact
deriving DecidableEq, Repr

instance : Inhabited Strictness := ⟨.exact⟩

def Strictness.identifier : Strictness → String
  | .exact => "Exact"
  | .inexact => "Inexact"

instance : Describe Strictness := ⟨fun s => .word s.identifier⟩

/-- `consumed` counts the predicates that writes have taken from the front of the sequence. -/
structure Linear (V : Type) where
  value : V
  remaining : List (Predicate V)
  consumed : Nat
  strictness : Strictness

namespace Linear

variable {V : Type}

def new (value : V) (strictness : Strictness) (sequence : List (Predicate V)) : Linear V :=
  ⟨value, sequence, 0, strictness⟩

def isExhausted (linear : Linear V) : Bool := linear.remaining.isEmpty

variable [Describe V]

/-- The initial value itself is tested against the first predicate, and consumes it. -/
def enter (value : V) (strictness : Strictness) (sequence : List (Predicate V)) :
    Run Violation (Linear V) :=
  match sequence with
  | [] => return new value strictness []
  | head :: rest => do
    if ← head.eval value then
      return ⟨value, rest, 1, strictness⟩
    else
      Run.refuse (.construction .linear head.name (describe value))

/-- A write past the end of the sequence is not reported. -/
def write (linear : Linear V) (value : V) : Run Violation (Linear V) :=
  match linear.remaining with
  | [] =>
    match linear.strictness with
    | .exact => Run.refuse (.sequenceExhausted (describe value))
    | .inexact => return { linear with value }
  | head :: rest => do
    if ← head.eval value then
      Run.report (.stepCommitted linear.consumed (describe value))
      return { linear with value, remaining := rest, consumed := linear.consumed + 1 }
    else
      Run.refuse (.sequenceStepUnsatisfied linear.consumed head.name (describe value))

def shape (linear : Linear V) : Shape :=
  .closedRecord "Linear" [("value", Describe.shape linear.value),
    ("remaining", .list (linear.remaining.map Predicate.shape)),
    ("strictness", Describe.shape linear.strictness)]

instance : Describe (Linear V) := ⟨shape⟩

end Linear
end RuntimeContracts

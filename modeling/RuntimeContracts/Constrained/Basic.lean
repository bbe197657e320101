import RuntimeContracts.Predicate.Search
import RuntimeContracts.Violation

/-!
# Constrained values

A constrained value is guarded by a list of constraints. A write is committed only if every
constraint holds on the candidate; a constraint that is added later says nothing about the value
already there.
-/

namespace RuntimeContracts

structure Constrained (V : Type) where
  value : V
  constraints : List (Predicate V)

namespace Constrained

variable {V : Type}

def constrain (guarded : Constrained V) (p : Predicate V) : Constrained V :=
  { guarded with constraints := guarded.constraints ++ [p] }

def names (guarded : Constrained V) : List String :=
  guarded.constraints.map Predicate.name

variable [Describe V]

/-- Refused with the first constraint that fails on the initial value. -/
def create (value : V) (constraints : List (Predicate V)) : Run Violation (Constrained V) := do
  match ← Predicate.firstFailing constraints value with
  | some (_, p) => Run.refuse (.construction .constrained p.name (describe value))
  | none => return ⟨value, constraints⟩

/-- Refused with the first constraint that fails on the candidate. -/
def write (guarded : Constrained V) (value : V) : Run Violation (Constrained V) := do
  match ← Predicate.firstFailing guarded.constraints value with
  | some (_, p) => Run.refuse (.constraintUnsatisfied p.name (describe value))
  | none =>
    Run.report (.writeCommitted (describe value))
    return { guarded with value }

def shape (guarded : Constrained V) : Shape :=
  .closedRecord "Constrained" [("value", Describe.shape guarded.value),
    ("constraints", .list (guarded.constraints.map Predicate.shape))]

instance : Describe (Constrained V) := ⟨shape⟩

end Constrained
end RuntimeContracts

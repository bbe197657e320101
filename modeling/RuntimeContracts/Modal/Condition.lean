import RuntimeContracts.Predicate.Basic
import RuntimeContracts.Violation

/-!
# Conditions

A condition waits for its trigger, then demands that its rule holds, until its discard predicate
retires it. A rule is either a predicate, which names itself as the reason of a failure, or client
code that gives a reason of its own.
-/

namespace RuntimeContracts

inductive Rule (V : Type) where
  | requires (p : Predicate V)
  | custom (check : V → Client (Option String))

structure Condition (V : Type) where
  description : String
  trigger : Predicate V
  rule : Rule V
  discard : Option (Predicate V)

namespace Condition

variable {V ε : Type}

/-- A condition that nothing retires. -/
def ofCheck (description : String) (trigger : Predicate V) (check : V → Client (Option String)) :
    Condition V :=
  ⟨description, trigger, .custom check, none⟩

def ofRequirement (description : String) (trigger requirement : Predicate V) : Condition V :=
  ⟨description, trigger, .requires requirement, none⟩

/-- A later discard predicate replaces an earlier one. -/
def retireWhen (condition : Condition V) (p : Predicate V) : Condition V :=
  { condition with discard := some p }

def unsatisfiedReason (p : Predicate V) : String := "`" ++ p.name ++ "` not satisfied"

/-- The reason why the rule fails on the value, if it does. -/
def check (condition : Condition V) (v : V) : Run ε (Option String) :=
  match condition.rule with
  | .requires p => do
    if ← p.eval v then return none else return some (unsatisfiedReason p)
  | .custom check => do
    Run.emit (.checked condition.description)
    Run.call (check v)

def discards (condition : Condition V) (v : V) : Run ε Bool :=
  match condition.discard with
  | none => pure false
  | some p => p.eval v

def demand [Describe V] (condition : Condition V) (v : V) : Run Violation Unit := do
  match ← condition.check v with
  | none => pure ()
  | some reason => Run.refuse (.conditionViolated condition.description (describe v) reason)

def shape (condition : Condition V) : Shape :=
  .openRecord "Condition" [("description", .quoted condition.description),
    ("trigger", condition.trigger.shape)]

instance : Describe (Condition V) := ⟨shape⟩

end Condition
end RuntimeContracts

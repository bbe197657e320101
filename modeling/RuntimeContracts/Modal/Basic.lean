import RuntimeContracts.Modal.Condition
import RuntimeContracts.Run.Act

/-!
# Modal values

A modal value carries pending conditions, which its values may still trigger, and active ones, which
every access enforces. A write checks the active conditions and those that the candidate triggers;
only then does it release the active conditions that the candidate discards, activate the triggered
ones, and take the candidate.
-/

namespace RuntimeContracts

structure Modal (V : Type) where
  value : V
  pending : List (Condition V)
  active : List (Condition V)

namespace Modal

variable {V ε : Type}

def new (value : V) (conditions : List (Condition V)) : Modal V := ⟨value, conditions, []⟩

def attach (modal : Modal V) (condition : Condition V) : Modal V :=
  { modal with pending := modal.pending ++ [condition] }

def activeDescriptions (modal : Modal V) : List String := modal.active.map (·.description)

def pendingDescriptions (modal : Modal V) : List String := modal.pending.map (·.description)

variable [Describe V]

def checkAll (v : V) : List (Condition V) → Run Violation Unit
  | [] => pure ()
  | condition :: rest => do
    condition.demand v
    checkAll v rest

def checkTriggered (v : V) : List (Condition V) → Run Violation Unit
  | [] => pure ()
  | condition :: rest => do
    if ← condition.trigger.eval v then condition.demand v
    checkTriggered v rest

/-- Drops the conditions that the value discards. A panic leaves the rest of the list as it is. -/
def sweep (v : V) : List (Condition V) → List (Condition V) × Run ε Unit
  | [] => ([], pure ())
  | condition :: rest =>
    let verdict : Run ε Bool := condition.discards v
    match verdict.outcome with
    | .returned true =>
      let (kept, run) := sweep v rest
      let discarded := Event.conditionDiscarded condition.description (describe v)
      (kept, run.after (verdict.trace ++ [.reported discarded]))
    | .returned false =>
      let (kept, run) := sweep v rest
      (condition :: kept, run.after verdict.trace)
    | .refused e => (condition :: rest, ⟨verdict.trace, .refused e⟩)
    | .panicked text => (condition :: rest, ⟨verdict.trace, .panicked text⟩)
    | .aborted text => (condition :: rest, ⟨verdict.trace, .aborted text⟩)

/-- Sorts the conditions into the active and the pending ones, behind those already there. -/
def activate (v : V) : List (Condition V) → Act (Modal V) ε Unit
  | [] => pure ()
  | condition :: rest => do
    if ← Act.lift (condition.trigger.eval v) then
      Act.lift (Run.report (.conditionActivated condition.description (describe v)))
      Act.modify fun modal => { modal with active := modal.active ++ [condition] }
    else
      Act.modify fun modal => { modal with pending := modal.pending ++ [condition] }
    activate v rest

/-- Takes all pending conditions and sorts them anew. -/
def activatePending (v : V) : Act (Modal V) ε Unit := do
  let modal ← Act.get
  Act.set { modal with pending := [] }
  activate v modal.pending

def sweepActive (v : V) : Act (Modal V) ε Unit :=
  Act.within Modal.active (fun active modal => { modal with active }) (sweep v)

def write (v : V) : Act (Modal V) Violation Unit := do
  let modal ← Act.get
  Act.lift (checkAll v modal.active)
  Act.lift (checkTriggered v modal.pending)
  sweepActive v
  activatePending v
  Act.modify fun modal => { modal with value := v }

/-- A read enforces the active conditions too, and may retire some. -/
def read : Act (Modal V) Violation V := do
  let modal ← Act.get
  Act.lift (checkAll modal.value modal.active)
  sweepActive modal.value
  return modal.value

def shape (modal : Modal V) : Shape :=
  .closedRecord "Modal" [("value", Describe.shape modal.value),
    ("pending", .list (modal.pending.map Condition.shape)),
    ("active", .list (modal.active.map Condition.shape))]

instance : Describe (Modal V) := ⟨shape⟩

end Modal
end RuntimeContracts

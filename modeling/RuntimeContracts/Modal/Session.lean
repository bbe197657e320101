import RuntimeContracts.Modal.Basic
import RuntimeContracts.Session.Machine

/-!
# Sessions on one modal value

There is at most one modal value at a time. What an interrupted access has already released stays
released.
-/

namespace RuntimeContracts.Modal

inductive Request (V : Type) where
  | new (value : V) (conditions : List (Condition V))
  | write (form : Form) (value : V)
  | read (form : Form)
  | attach (condition : Condition V)
  | showDebug (pretty : Bool)
  | describeCondition (condition : Condition V) (pretty : Bool)

inductive Reply (V : Type) where
  | done
  | value (v : V)
  | text (t : String)
  | condition (description debug : String)

variable {V : Type}

def Request.form : Request V → Form
  | .write form _ | .read form => form
  | _ => .checked

def onModal {ε α : Type} (act : Act (Modal V) ε α) : Act (Option (Modal V)) ε (Option α) :=
  withObject fun modal => Act.within (fun _ => modal) (fun changed _ => some changed) act

theorem onModal_some {ε α : Type} (act : Act (Modal V) ε α) (modal : Modal V) :
    onModal act (some modal) =
      (some (act modal).1, ⟨(act modal).2.trace, (act modal).2.outcome.map some⟩) :=
  Act.bind_pure_apply (Act.within (fun _ => modal) (fun changed _ => some changed) act) some
    (some modal)

variable [Describe V]

def attempt : Request V → Act (Option (Modal V)) Violation (Option (Reply V))
  | .new value conditions => do
    Act.set (some (Modal.new value conditions))
    return some .done
  | .write _ value => onModal do
    Modal.write value
    return .done
  | .read _ => onModal do
    return .value (← Modal.read)
  | .attach condition => onModal do
    Act.modify (·.attach condition)
    return .done
  | .showDebug pretty => onModal do
    return .text ((← Act.get).shape.render pretty)
  | .describeCondition condition pretty =>
    return some (.condition condition.description (condition.shape.render pretty))

theorem attempt_write_some (form : Form) (v : V) (modal : Modal V) :
    attempt (.write form v) (some modal) = (some (write v modal).1,
      ⟨(write v modal).2.trace, (write v modal).2.outcome.map fun _ => some .done⟩) := by
  rw [attempt, onModal_some, Act.bind_pure_apply]
  cases (write v modal).2.outcome <;> rfl

theorem attempt_read_some (form : Form) (modal : Modal V) :
    attempt (.read form) (some modal) = (some (read modal).1,
      ⟨(read modal).2.trace, (read modal).2.outcome.map fun v => some (.value v)⟩) := by
  rw [attempt, onModal_some, Act.bind_pure_apply]
  cases (read modal).2.outcome <;> rfl

def machine : Machine (Option (Modal V)) (Request V) Violation (Reply V) :=
  ⟨attempt, Request.form⟩

end RuntimeContracts.Modal

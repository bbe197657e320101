import RuntimeContracts.Linear.Basic
import RuntimeContracts.Session.Machine

/-!
# Sessions on one linear value

There is at most one linear value at a time. A creation first drops the one that is there.
-/

namespace RuntimeContracts.Linear

inductive Request (V : Type) where
  | new (value : V) (strictness : Strictness) (sequence : List (Predicate V))
  | enter (form : Form) (value : V) (strictness : Strictness) (sequence : List (Predicate V))
  | write (form : Form) (value : V)
  | read
  | showDebug (pretty : Bool)

inductive Reply (V : Type) where
  | done
  | value (v : V)
  | text (t : String)

variable {V : Type}

def Request.form : Request V → Form
  | .enter form .. | .write form _ => form
  | _ => .checked

variable [Describe V]

def attempt : Request V → Act (Option (Linear V)) Violation (Option (Reply V))
  | .new value strictness sequence => do
    Act.set (some (Linear.new value strictness sequence))
    return some .done
  | .enter _ value strictness sequence => do
    Act.set none
    let linear ← Act.lift (enter value strictness sequence)
    Act.set (some linear)
    return some .done
  | .write _ value => withObject fun linear => do
    let linear ← Act.lift (linear.write value)
    Act.set (some linear)
    return .done
  | .read => withObject fun linear => return .value linear.value
  | .showDebug pretty => withObject fun linear => return .text (linear.shape.render pretty)

def machine : Machine (Option (Linear V)) (Request V) Violation (Reply V) :=
  ⟨attempt, Request.form⟩

end RuntimeContracts.Linear

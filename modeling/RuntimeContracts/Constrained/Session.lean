import RuntimeContracts.Constrained.Basic
import RuntimeContracts.Session.Machine

/-!
# Sessions on one constrained value

There is at most one constrained value at a time. A creation first drops the one that is there.
-/

namespace RuntimeContracts.Constrained

inductive Request (V : Type) where
  | create (form : Form) (value : V) (constraints : List (Predicate V))
  | write (form : Form) (value : V)
  | read
  | constrain (p : Predicate V)
  | takeValue
  | showDebug (pretty : Bool)

inductive Reply (V : Type) where
  | done
  | value (v : V)
  | text (t : String)

variable {V : Type}

def Request.form : Request V → Form
  | .create form .. | .write form _ => form
  | _ => .checked

variable [Describe V]

def attempt : Request V → Act (Option (Constrained V)) Violation (Option (Reply V))
  | .create _ value constraints => do
    Act.set none
    let guarded ← Act.lift (Constrained.create value constraints)
    Act.set (some guarded)
    return some .done
  | .write _ value => withObject fun guarded => do
    let guarded ← Act.lift (guarded.write value)
    Act.set (some guarded)
    return .done
  | .read => withObject fun guarded => return .value guarded.value
  | .constrain p => withObject fun guarded => do
    Act.set (some (guarded.constrain p))
    return .done
  | .takeValue => withObject fun guarded => do
    Act.set none
    return .value guarded.value
  | .showDebug pretty => withObject fun guarded => return .text (guarded.shape.render pretty)

def machine : Machine (Option (Constrained V)) (Request V) Violation (Reply V) :=
  ⟨attempt, Request.form⟩

end RuntimeContracts.Constrained

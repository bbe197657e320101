import RuntimeContracts.Call.Contract
import RuntimeContracts.Session.Machine

/-!
# Sessions on one contracted callable

There is at most one contract at a time. Its target can be replaced and its lists extended between
the calls.
-/

namespace RuntimeContracts.CallContract

inductive Request (A R ε : Type) where
  | new (target : A → Client (Except ε R))
  | newTotal (target : A → Client R)
  | withTarget (target : A → Client (Except ε R))
  | addBefore (hook : Hook A)
  | addAfter (hook : Hook A)
  | require (p : Predicate A)
  | ensure (p : Predicate R)
  | invoke (form : Form) (args : A)
  | showDebug (pretty : Bool)

inductive Reply (R : Type) where
  | done
  | value (r : R)
  | text (t : String)

variable {A R ε : Type}

def Request.form : Request A R ε → Form
  | .invoke form _ => form
  | _ => .checked

abbrev Step (A R ε α : Type) := Act (Option (CallContract A R ε)) (CallError ε) α

def changing (change : CallContract A R ε → CallContract A R ε) :
    Step A R ε (Option (Reply R)) :=
  withObject fun contract => do
    Act.set (some (change contract))
    return .done

variable [Describe A]

def attempt : Request A R ε → Step A R ε (Option (Reply R))
  | .new target => do
    Act.set (some (CallContract.new target))
    return some .done
  | .newTotal target => do
    Act.set (some (ofTotal target))
    return some .done
  | .withTarget target => changing (·.withTarget target)
  | .addBefore hook => changing (·.addBefore hook)
  | .addAfter hook => changing (·.addAfter hook)
  | .require p => changing (·.require p)
  | .ensure p => changing (·.ensure p)
  | .invoke _ args => withObject fun contract => return .value (← Act.lift (contract.invoke args))
  | .showDebug pretty => withObject fun contract => return .text (contract.shape.render pretty)

def machine : Machine (Option (CallContract A R ε)) (Request A R ε) (CallError ε) (Reply R) :=
  ⟨attempt, Request.form⟩

end RuntimeContracts.CallContract

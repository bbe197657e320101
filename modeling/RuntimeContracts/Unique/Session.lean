import RuntimeContracts.Unique.Basic
import RuntimeContracts.Session.Machine
import RuntimeContracts.Named

/-!
# Sessions on named slots

Slots go by names of their own. A copy of a slot shares nothing with it afterwards.
-/

namespace RuntimeContracts.Unique

inductive Request (V : Type) where
  | new (slot : String) (value : V)
  | empty (slot : String)
  | read (form : Form) (slot : String)
  | fill (slot : String) (value : V)
  | isEmpty (slot : String)
  | copy (slot target : String)
  | equal (slot other : String)
  | showDebug (slot : String) (pretty : Bool)

inductive Reply (V : Type) where
  | done
  | value (v : V)
  | flag (b : Bool)
  | text (t : String)

variable {V : Type}

def Request.form : Request V → Form
  | .read form _ => form
  | _ => .checked

abbrev Slots (V : Type) := Named (Unique V)

def withSlot {α : Type} (slot : String) (act : Unique V → Act (Slots V) Violation α) :
    Act (Slots V) Violation (Option α) := do
  match (← Act.get).get? slot with
  | none => pure none
  | some unique => return some (← act unique)

variable [Describe V] [DecidableEq V]

def attempt : Request V → Act (Slots V) Violation (Option (Reply V))
  | .new slot value => do
    Act.modify (·.insert slot (Unique.new value))
    return some .done
  | .empty slot => do
    Act.modify (·.insert slot Unique.empty)
    return some .done
  | .read _ slot => withSlot slot fun unique => do
    let (value, emptied) ← Act.lift unique.read
    Act.modify (·.insert slot emptied)
    return .value value
  | .fill slot value => withSlot slot fun unique => do
    let filled ← Act.lift (unique.fill value)
    Act.modify (·.insert slot filled)
    return .done
  | .isEmpty slot => withSlot slot fun unique => return .flag unique.isEmpty
  | .copy slot target => withSlot slot fun unique => do
    Act.modify (·.insert target unique)
    return .done
  | .equal slot other => do
    match (← Act.get).get? slot, (← Act.get).get? other with
    | some first, some second => return some (.flag (first = second))
    | _, _ => return none
  | .showDebug slot pretty => withSlot slot fun unique => return .text (unique.shape.render pretty)

def machine : Machine (Slots V) (Request V) Violation (Reply V) :=
  ⟨attempt, Request.form⟩

end RuntimeContracts.Unique

import RuntimeContracts.Behaviour.Basic
import RuntimeContracts.Named

/-!
# Declarations

A declaration lists the callable members of an owner, behaviours and bare callables. Finalizing it
injects one context into every behaviour of the list, or into none if a member is bare. Finalizing
an owner does that with the context and the members that the owner gives.
-/

namespace RuntimeContracts

/-- A behaviour is listed by the name that it is kept under. -/
inductive Member where
  | behaviour (id : String)
  | bare (name : String)
deriving DecidableEq, Repr

abbrev Declaration := List Member

namespace Declaration

def firstBare : Declaration → Option String
  | [] => none
  | .bare name :: _ => some name
  | .behaviour _ :: rest => firstBare rest

def behaviourIds (members : Declaration) : List String :=
  members.filterMap fun
    | .behaviour id => some id
    | .bare _ => none

variable {A : Type}

def injectAll (context : ExecutionContext) :
    List String → Named (Behaviour A) → Named (Behaviour A)
  | [], behaviours => behaviours
  | id :: rest, behaviours =>
    match behaviours.get? id with
    | none => injectAll context rest behaviours
    | some behaviour => injectAll context rest (behaviours.insert id (behaviour.inject context))

/-- The number of behaviours that received the context. -/
def finalize (members : Declaration) (context : ExecutionContext) :
    Act (Named (Behaviour A)) Violation Nat :=
  match members.firstBare with
  | some name => do
    Act.lift (Run.report (.bareMember name))
    Act.lift (Run.refuse (.undeclaredBehaviour name))
  | none => do
    Act.modify (injectAll context members.behaviourIds)
    return members.behaviourIds.length

end Declaration

/-- An owner of behaviours: it hands out its context, and registers its members with a declaration.
Both are code of the owner and leave what they like in the trace. -/
structure Owner where
  context : Run Violation ExecutionContext
  declare : Declaration → Run Violation Declaration

namespace Owner

variable {A : Type}

/-- Asks for the context first, then has an empty declaration filled. -/
def finalize (owner : Owner) : Act (Named (Behaviour A)) Violation Nat := do
  let context ← Act.lift owner.context
  let members ← Act.lift (owner.declare [])
  members.finalize context

/-- An owner that notes what it is asked for. -/
def noting (context : ExecutionContext) (members : Declaration) : Owner where
  context := do
    Run.emit .ownerAskedContext
    return context
  declare registered := do
    Run.emit .ownerDeclared
    return registered ++ members

end Owner
end RuntimeContracts

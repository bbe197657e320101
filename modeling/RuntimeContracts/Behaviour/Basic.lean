import RuntimeContracts.Behaviour.Context
import RuntimeContracts.Violation

/-!
# Behaviours

A behaviour is a named body that runs only inside an execution context. Until one is injected, an
invocation is refused; a later injection replaces an earlier one.
-/

namespace RuntimeContracts

structure Behaviour (A : Type) where
  name : String
  body : A → Client Unit
  context : Option ExecutionContext

namespace Behaviour

variable {A : Type}

def new (name : String) (body : A → Client Unit) : Behaviour A := ⟨name, body, none⟩

def inject (behaviour : Behaviour A) (context : ExecutionContext) : Behaviour A :=
  { behaviour with context := some context }

def hasContext (behaviour : Behaviour A) : Bool := behaviour.context.isSome

def shape (behaviour : Behaviour A) : Shape :=
  .closedRecord "Behaviour" [("name", .quoted behaviour.name),
    ("has_context", .flag behaviour.hasContext)]

instance : Describe (Behaviour A) := ⟨shape⟩

variable [Describe A]

def runBody (behaviour : Behaviour A) (args : A) : Run Empty Unit := do
  Run.emit (.bodyRun behaviour.name (describe args))
  Run.call (behaviour.body args)

def invoke (behaviour : Behaviour A) (args : A) : Act Locks Violation Unit :=
  match behaviour.context with
  | none => Act.lift (Run.refuse (.missingContext behaviour.name))
  | some context => context.run behaviour.runBody args

end Behaviour
end RuntimeContracts

import RuntimeContracts.Automaton.Graph

/-!
# Building graphs

A builder registers states under distinct names, issues a handle for each, and connects states by
their handles. It takes only handles that it issued itself, also for the initial state of the graph
that it is turned into.
-/

namespace RuntimeContracts

structure GraphBuilder (V : Type) where
  id : Nat
  states : List (State V)
  index : Named StateHandle

namespace GraphBuilder

variable {V : Type}

def new (id : Nat) : GraphBuilder V := ⟨id, [], Named.empty⟩

def nextId (builder : GraphBuilder V) : StateHandle := ⟨builder.id, builder.states.length⟩

def register (builder : GraphBuilder V) (name : String) (predicate : Predicate V) :
    Run Violation (StateHandle × GraphBuilder V) :=
  match builder.index.get? name with
  | some _ => Run.refuse (.duplicateState name)
  | none => return (builder.nextId,
      { builder with
        states := builder.states ++ [⟨name, predicate, []⟩]
        index := builder.index.insert name builder.nextId })

def Owns (builder : GraphBuilder V) (id : StateHandle) : Prop :=
  id.graph = builder.id ∧ id.index < builder.states.length

instance (builder : GraphBuilder V) (id : StateHandle) : Decidable (builder.Owns id) :=
  inferInstanceAs (Decidable (_ ∧ _))

/-- Refuses a handle that this builder did not issue, and warns of it. -/
def requireOwn (builder : GraphBuilder V) (id : StateHandle) : Run Violation Unit :=
  if builder.Owns id then return ()
  else do
    Run.report (.foreignHandle (describe id) builder.id)
    Run.refuse (.unknownState (describe id))

def connect (builder : GraphBuilder V) (source target : StateHandle) :
    Run Violation (GraphBuilder V) := do
  builder.requireOwn source
  builder.requireOwn target
  let state ← State.nth builder.states source.index
  return { builder with states := builder.states.set source.index (state.connectTo target) }

def build (builder : GraphBuilder V) (initial : StateHandle) :
    Run Violation (TransitionGraph V) := do
  builder.requireOwn initial
  let first ← State.nth builder.states initial.index
  Run.report (.graphBuilt builder.states.length first.name)
  return ⟨builder.id, builder.states, builder.index, initial⟩

end GraphBuilder
end RuntimeContracts

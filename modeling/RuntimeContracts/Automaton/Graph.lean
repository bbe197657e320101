import RuntimeContracts.Automaton.Handle
import RuntimeContracts.Named
import RuntimeContracts.Predicate.Basic
import RuntimeContracts.Violation

/-!
# Transition graphs

A graph is an arena of named states, each with a predicate on the values it accepts and the handles
of its successors in ascending order. A look-up by handle answers only for the graph's own handles;
an access to the arena by place panics outside it.
-/

namespace RuntimeContracts

structure State (V : Type) where
  name : String
  predicate : Predicate V
  successors : List StateHandle

namespace State

variable {V ε : Type}

def accepts (state : State V) (v : V) : Run ε Bool := state.predicate.eval v

def connectTo (state : State V) (target : StateHandle) : State V :=
  { state with successors := StateHandle.insertAscending target state.successors }

def shape (state : State V) : Shape :=
  .closedRecord "State" [("name", .quoted state.name), ("predicate", state.predicate.shape),
    ("successors", .set (state.successors.map StateHandle.shape))]

instance : Describe (State V) := ⟨shape⟩

def nth (states : List (State V)) (index : Nat) : Run ε (State V) :=
  match states[index]? with
  | some state => pure state
  | none => Run.panic ("index out of bounds: the len is " ++ toString states.length ++
      " but the index is " ++ toString index)

theorem nth_of_lt {states : List (State V)} {index : Nat} (h : index < states.length) :
    (nth states index : Run ε (State V)) = pure states[index] := by
  simp [nth, h]

end State

structure TransitionGraph (V : Type) where
  id : Nat
  states : List (State V)
  index : Named StateHandle
  initial : StateHandle

namespace TransitionGraph

variable {V ε : Type}

def size (graph : TransitionGraph V) : Nat := graph.states.length

def isEmpty (graph : TransitionGraph V) : Bool := graph.states.isEmpty

/-- The state of an own handle; `none` for a handle of another graph. -/
def state? (graph : TransitionGraph V) (id : StateHandle) : Option (State V) :=
  if id.graph = graph.id then graph.states[id.index]? else none

/-- The state at the place of a handle that is taken to be an own one. -/
def node (graph : TransitionGraph V) (id : StateHandle) : Run ε (State V) :=
  State.nth graph.states id.index

def nodes (graph : TransitionGraph V) : List StateHandle → Run ε (List (State V))
  | [] => pure []
  | id :: rest => do
    let state ← graph.node id
    return state :: (← nodes graph rest)

def handleOf (graph : TransitionGraph V) (name : String) : Option StateHandle :=
  graph.index.get? name

/-- The states that may follow; none for a handle of another graph. -/
def statesAfter (graph : TransitionGraph V) (id : StateHandle) : Run ε (List (State V)) :=
  match graph.state? id with
  | none => pure []
  | some state => graph.nodes state.successors

/-- The handles, in order, of those states that accept the value. Every state is tested. -/
def accepting (graph : TransitionGraph V) (v : V) : List StateHandle → Run ε (List StateHandle)
  | [] => pure []
  | id :: rest => do
    let state ← graph.node id
    let accepted ← state.accepts v
    let others ← accepting graph v rest
    return if accepted then id :: others else others

def shape (graph : TransitionGraph V) : Run ε Shape := do
  let initial ← graph.node graph.initial
  return .closedRecord "TransitionGraph" [("initial", .quoted initial.name),
    ("states", .list (graph.states.map State.shape))]

end TransitionGraph
end RuntimeContracts

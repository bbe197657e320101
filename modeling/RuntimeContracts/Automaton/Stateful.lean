import RuntimeContracts.Automaton.Graph

/-!
# Values guarded by a graph

A stateful value is always in one state of its graph. A write moves it to the one successor that
accepts the candidate; a write that no successor accepts is refused, and so is one that several do.
-/

namespace RuntimeContracts

structure Stateful (V : Type) where
  value : V
  current : StateHandle
  graph : TransitionGraph V

namespace Stateful

variable {V ε : Type}

def currentState (stateful : Stateful V) : Run ε (State V) := stateful.graph.node stateful.current

def currentName? (stateful : Stateful V) : Option String :=
  stateful.graph.states[stateful.current.index]?.map State.name

variable [Describe V]

def create (value : V) (graph : TransitionGraph V) : Run Violation (Stateful V) := do
  let initial ← graph.node graph.initial
  if ← initial.accepts value then
    return ⟨value, graph.initial, graph⟩
  else
    Run.refuse (.initialStateRejected initial.name (describe value))

def write (stateful : Stateful V) (value : V) : Run Violation (Stateful V) := do
  let source ← stateful.currentState
  match ← stateful.graph.accepting value source.successors with
  | [] => Run.refuse (.noMatchingTransition source.name (describe value))
  | [next] =>
    let target ← stateful.graph.node next
    Run.report (.stateEntered source.name target.name)
    return { stateful with value, current := next }
  | several =>
    let candidates ← stateful.graph.nodes several
    Run.refuse (.ambiguousTransition source.name (candidates.map State.name) (describe value))

def shape (stateful : Stateful V) : Run ε Shape := do
  let state ← stateful.currentState
  return .openRecord "Stateful" [("value", Describe.shape stateful.value),
    ("current", .quoted state.name)]

end Stateful
end RuntimeContracts

import RuntimeContracts.Diagnosis

/-!
# Contract violations

The ways in which a value breaks its contract. Values and handles are recorded by their description
at the point of failure.
-/

namespace RuntimeContracts

/-- The wrappers whose construction checks the initial value. -/
inductive Wrapper where
  | constrained
  | linear
deriving DecidableEq, Repr

def Wrapper.label : Wrapper → String
  | constrained => "Constrained"
  | linear => "Linear"

inductive Violation where
  | construction (wrapper : Wrapper) (predicate value : String)
  | initialStateRejected (state value : String)
  | duplicateState (name : String)
  | unknownState (handle : String)
  | constraintUnsatisfied (predicate value : String)
  | sequenceStepUnsatisfied (position : Nat) (predicate value : String)
  | sequenceExhausted (value : String)
  | alreadyConsumed
  | conditionViolated (condition value reason : String)
  | noMatchingTransition (state value : String)
  | ambiguousTransition (state : String) (candidates : List String) (value : String)
  | undeclaredBehaviour (member : String)
  | missingContext (member : String)
deriving DecidableEq, Repr

namespace Violation

def kind : Violation → ViolationKind
  | construction .. | initialStateRejected .. | duplicateState _ | unknownState _ => .construction
  | constraintUnsatisfied .. | sequenceStepUnsatisfied .. | sequenceExhausted _ | alreadyConsumed
  | conditionViolated .. => .access
  | noMatchingTransition .. | ambiguousTransition .. => .transition
  | undeclaredBehaviour _ | missingContext _ => .declaration

/-- The violations that no choice of data could have avoided. -/
def isDefect : Violation → Bool
  | ambiguousTransition .. | duplicateState _ | unknownState _ => true
  | _ => false

def message : Violation → String
  | construction wrapper predicate value =>
    wrapper.label ++ " rejected initial value " ++ value ++ ": `" ++ predicate ++ "` not satisfied"
  | initialStateRejected state value =>
    "initial value " ++ value ++ " does not belong to initial state `" ++ state ++ "`"
  | duplicateState name => "state `" ++ name ++ "` is already registered in this graph"
  | unknownState handle =>
    "state handle " ++ handle ++ " was not registered with this graph builder"
  | constraintUnsatisfied predicate value =>
    "constraint `" ++ predicate ++ "` not satisfied by value " ++ value
  | sequenceStepUnsatisfied position predicate value =>
    "sequence predicate #" ++ toString position ++ " `" ++ predicate ++
      "` not satisfied by value " ++ value
  | sequenceExhausted value =>
    "predicate sequence is exhausted and exact, write of " ++ value ++ " rejected"
  | alreadyConsumed => "value has already been consumed and was not refilled"
  | conditionViolated condition value reason =>
    "active condition `" ++ condition ++ "` violated by value " ++ value ++ ": " ++ reason
  | noMatchingTransition state value =>
    "no successor of state `" ++ state ++ "` accepts value " ++ value
  | ambiguousTransition state candidates value =>
    "ambiguous transition from state `" ++ state ++ "`: " ++ toString candidates.length ++
      " successors accept value " ++ value ++ " (" ++ ", ".intercalate candidates ++ ")"
  | undeclaredBehaviour member =>
    "member `" ++ member ++ "` is callable but not wrapped as a behaviour"
  | missingContext member =>
    "behaviour `" ++ member ++ "` invoked before an execution context was injected"

def shape : Violation → Shape
  | construction wrapper predicate value =>
    .closedRecord "Construction" [("wrapper", .quoted wrapper.label),
      ("predicate", .quoted predicate), ("value", .quoted value)]
  | initialStateRejected state value =>
    .closedRecord "InitialStateRejected" [("state", .quoted state), ("value", .quoted value)]
  | duplicateState name => .closedRecord "DuplicateState" [("name", .quoted name)]
  | unknownState handle => .closedRecord "UnknownState" [("handle", .quoted handle)]
  | constraintUnsatisfied predicate value =>
    .closedRecord "ConstraintUnsatisfied" [("predicate", .quoted predicate),
      ("value", .quoted value)]
  | sequenceStepUnsatisfied position predicate value =>
    .closedRecord "SequenceStepUnsatisfied" [("position", .number position),
      ("predicate", .quoted predicate), ("value", .quoted value)]
  | sequenceExhausted value => .closedRecord "SequenceExhausted" [("value", .quoted value)]
  | alreadyConsumed => .word "AlreadyConsumed"
  | conditionViolated condition value reason =>
    .closedRecord "ConditionViolated" [("condition", .quoted condition), ("value", .quoted value),
      ("reason", .quoted reason)]
  | noMatchingTransition state value =>
    .closedRecord "NoMatchingTransition" [("state", .quoted state), ("value", .quoted value)]
  | ambiguousTransition state candidates value =>
    .closedRecord "AmbiguousTransition" [("state", .quoted state),
      ("candidates", .list (candidates.map .quoted)), ("value", .quoted value)]
  | undeclaredBehaviour member => .closedRecord "UndeclaredBehaviour" [("member", .quoted member)]
  | missingContext member => .closedRecord "MissingContext" [("member", .quoted member)]

instance : Diagnosis Violation := ⟨kind, isDefect, message⟩
instance : Describe Violation := ⟨shape⟩

end Violation
end RuntimeContracts

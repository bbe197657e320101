import RuntimeContracts.Diagnosis

/-!
# Events

An event reports one thing that a contract did: it committed a write, moved between states, turned a
condition on or off, refused a call, was misconfigured, or was enforced. Each has a level, a message
and named fields.
-/

namespace RuntimeContracts

inductive Level where
  | trace
  | debug
  | warn
  | error
deriving DecidableEq, Repr

def Level.label : Level → String
  | trace => "TRACE"
  | debug => "DEBUG"
  | warn => "WARN"
  | error => "ERROR"

/-- Values in events are texts: an event outlives the value that it reports. -/
inductive Event where
  | writeCommitted (value : String)
  | stepCommitted (position : Nat) (value : String)
  | slotOverwritten
  | conditionActivated (condition value : String)
  | conditionDiscarded (condition value : String)
  | graphBuilt (states : Nat) (initial : String)
  | foreignHandle (handle : String) (graph : Nat)
  | stateEntered (source target : String)
  | preconditionRejected (index : Nat) (predicate : String)
  | postconditionRejected (index : Nat) (predicate : String)
  | bareMember (member : String)
  | settingsInstalled (mode : FailureMode)
  | violationEnforced (kind : ViolationKind) (isDefect : Bool) (message : String)
deriving DecidableEq, Repr

namespace Event

def level : Event → Level
  | writeCommitted _ | stepCommitted .. | slotOverwritten | stateEntered .. => .trace
  | conditionActivated .. | conditionDiscarded .. | graphBuilt .. | preconditionRejected ..
  | postconditionRejected .. | settingsInstalled _ => .debug
  | foreignHandle .. | bareMember _ => .warn
  | violationEnforced .. => .error

def message : Event → String
  | writeCommitted _ => "constrained write committed"
  | stepCommitted .. => "sequence step committed"
  | slotOverwritten => "unique slot overwritten before it was read"
  | conditionActivated .. => "condition activated"
  | conditionDiscarded .. => "condition discarded"
  | graphBuilt .. => "transition graph built"
  | foreignHandle .. => "state handle from another graph"
  | stateEntered .. => "state transition"
  | preconditionRejected .. => "precondition rejected call"
  | postconditionRejected .. => "postcondition rejected result"
  | bareMember _ => "callable member is not wrapped as a behaviour"
  | settingsInstalled _ => "enforcement config installed"
  | violationEnforced _ _ message => "contract violation: " ++ message

def fields : Event → List (String × String)
  | writeCommitted value => [("value", value)]
  | stepCommitted position value => [("position", toString position), ("value", value)]
  | slotOverwritten => []
  | conditionActivated condition value | conditionDiscarded condition value =>
    [("condition", condition), ("value", value)]
  | graphBuilt states initial => [("states", toString states), ("initial", initial)]
  | foreignHandle handle graph => [("handle", handle), ("graph", toString graph)]
  | stateEntered source target => [("from", source), ("to", target)]
  | preconditionRejected index predicate | postconditionRejected index predicate =>
    [("index", toString index), ("predicate", predicate)]
  | bareMember member => [("member", member)]
  | settingsInstalled mode => [("failure_mode", mode.identifier)]
  | violationEnforced kind isDefect _ =>
    [("kind", kind.label), ("configuration_defect", if isDefect then "true" else "false")]

end Event
end RuntimeContracts

import RuntimeContracts.Trace.Event

/-!
# Trace entries

The trace of a run lists everything that client code and contracts did, in order: the tests and
checks that were evaluated, the hooks, targets, bodies and contexts that ran, and the events. A
watch decides which entries a reader is shown; evaluations and events are shown on request only.
-/

namespace RuntimeContracts

inductive HookPhase where
  | before
  | after
deriving DecidableEq, Repr

def HookPhase.label : HookPhase → String
  | before => "before"
  | after => "after"

inductive Entry where
  | tested (label : String)
  | checked (description : String)
  | hookRun (phase : HookPhase) (name args : String)
  | targetCalled (args : String)
  | bodyRun (name args : String)
  | contextEntered (name : String)
  | contextLeft (name : String)
  | ownerAskedContext
  | ownerDeclared
  | reported (event : Event)
deriving DecidableEq, Repr

structure Watch where
  tests : Bool
  events : Bool
deriving DecidableEq, Repr

/-- What a reader sees of an entry: a line of text, or the event itself. -/
inductive Line where
  | text (line : String)
  | event (event : Event)
deriving DecidableEq, Repr

namespace Entry

def isShown (watch : Watch) : Entry → Bool
  | tested _ | checked _ => watch.tests
  | reported _ => watch.events
  | _ => true

def line : Entry → Line
  | tested label => .text ("test " ++ label)
  | checked description => .text ("check " ++ description)
  | hookRun phase name args => .text (phase.label ++ " " ++ name ++ " " ++ args)
  | targetCalled args => .text ("target " ++ args)
  | bodyRun name args => .text ("body " ++ name ++ " " ++ args)
  | contextEntered name => .text ("context " ++ name ++ " enter")
  | contextLeft name => .text ("context " ++ name ++ " exit")
  | ownerAskedContext => .text "owner context"
  | ownerDeclared => .text "owner declare"
  | reported event => .event event

def event? : Entry → Option Event
  | reported event => some event
  | _ => none

end Entry

abbrev Trace := List Entry

namespace Trace

def shown (watch : Watch) (trace : Trace) : List Line :=
  (trace.filter (Entry.isShown watch)).map Entry.line

def events (trace : Trace) : List Event :=
  trace.filterMap Entry.event?

@[simp] theorem events_append (first second : Trace) :
    events (first ++ second) = events first ++ events second := by
  simp [events]

@[simp] theorem shown_append (watch : Watch) (first second : Trace) :
    shown watch (first ++ second) = shown watch first ++ shown watch second := by
  simp [shown]

end Trace
end RuntimeContracts

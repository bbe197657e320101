import RuntimeContracts.Automaton.Builder
import RuntimeContracts.Automaton.Stateful
import RuntimeContracts.Session.Machine

/-!
# Sessions on builders, graphs and stateful values

Builders, handles, graphs and stateful values are named, each in a name space of its own. Builders
are numbered in the order of their creation, and a number is never used again. Building consumes the
builder, and creating a stateful value consumes the graph, also when it is refused.
-/

namespace RuntimeContracts.Automaton

/-- Where a query finds its graph: under a name of its own, or inside a stateful value. -/
inductive Subject where
  | graph (name : String)
  | stateful (name : String)

inductive Request (V : Type) where
  | newBuilder (builder : String)
  | register (builder name : String) (predicate : Predicate V) (handle : String)
  | connect (builder : String) (pairs : List (String × String))
  | build (builder initial graph : String)
  | compareHandles (left right : String)
  | create (form : Form) (graph : String) (value : V) (stateful : String)
  | write (form : Form) (stateful : String) (value : V)
  | read (stateful : String)
  | currentHandle (stateful : String)
  | showStateful (stateful : String) (pretty : Bool)
  | size (subject : Subject)
  | initial (subject : Subject)
  | handleOf (subject : Subject) (name : String)
  | statesAfter (subject : Subject) (handle : String)
  | inspect (subject : Subject) (handle : String) (value : V) (pretty : Bool)
  | showGraph (subject : Subject) (pretty : Bool)

inductive Reply (V : Type) where
  | done
  | value (v : V)
  | text (t : String)
  | handle (id : Option StateHandle)
  | comparison (ordering : Ordering) (equal : Bool)
  | size (states : Nat) (isEmpty : Bool)
  | names (states : List String)
  | foreign
  | state (name : String) (accepts : Bool) (successors : List StateHandle) (debug : String)

structure Workspace (V : Type) where
  nextGraph : Nat
  builders : Named (GraphBuilder V)
  handles : Named StateHandle
  graphs : Named (TransitionGraph V)
  values : Named (Stateful V)

variable {V : Type}

def Request.form : Request V → Form
  | .create form .. | .write form .. => form
  | _ => .checked

namespace Workspace

def empty : Workspace V := ⟨0, Named.empty, Named.empty, Named.empty, Named.empty⟩

def addBuilder (work : Workspace V) (name : String) : Workspace V :=
  { work with
    nextGraph := work.nextGraph + 1
    builders := work.builders.insert name (GraphBuilder.new work.nextGraph) }

def setBuilder (name : String) (builder : GraphBuilder V) (work : Workspace V) : Workspace V :=
  { work with builders := work.builders.insert name builder }

def setHandle (name : String) (id : StateHandle) (work : Workspace V) : Workspace V :=
  { work with handles := work.handles.insert name id }

def setGraph (name : String) (graph : TransitionGraph V) (work : Workspace V) : Workspace V :=
  { work with graphs := work.graphs.insert name graph }

def setStateful (name : String) (stateful : Stateful V) (work : Workspace V) : Workspace V :=
  { work with values := work.values.insert name stateful }

def dropBuilder (name : String) (work : Workspace V) : Workspace V :=
  { work with builders := work.builders.erase name }

def dropGraph (name : String) (work : Workspace V) : Workspace V :=
  { work with graphs := work.graphs.erase name }

def graphOf? (work : Workspace V) : Subject → Option (TransitionGraph V)
  | .graph name => work.graphs.get? name
  | .stateful name => (work.values.get? name).map Stateful.graph

/-- The handles of all pairs; `none` if one of the names is unknown. -/
def pairs? (work : Workspace V) : List (String × String) → Option (List (StateHandle × StateHandle))
  | [] => some []
  | (source, target) :: rest => do
    let sourceId ← work.handles.get? source
    let targetId ← work.handles.get? target
    return (sourceId, targetId) :: (← pairs? work rest)

end Workspace

abbrev Step (V α : Type) := Act (Workspace V) Violation α

def finding {τ α : Type} (find : Workspace V → Option τ) (act : τ → Step V α) :
    Step V (Option α) := do
  match find (← Act.get) with
  | none => pure none
  | some found => return some (← act found)

/-- Connects the pairs in order; the builder keeps those connected before a refusal. -/
def connectAll (name : String) (builder : GraphBuilder V) :
    List (StateHandle × StateHandle) → Step V Unit
  | [] => pure ()
  | (source, target) :: rest => do
    let connected ← Act.lift (builder.connect source target)
    Act.modify (·.setBuilder name connected)
    connectAll name connected rest

variable [Describe V]

def attempt : Request V → Step V (Option (Reply V))
  | .newBuilder name => do
    Act.modify (·.addBuilder name)
    return some .done
  | .register name state predicate handle => finding (·.builders.get? name) fun builder => do
    let (id, extended) ← Act.lift (builder.register state predicate)
    Act.modify (·.setBuilder name extended)
    Act.modify (·.setHandle handle id)
    return .handle (some id)
  | .connect name pairs =>
    finding (fun work => return (← work.pairs? pairs, ← work.builders.get? name))
      fun (pairs, builder) => do
        connectAll name builder pairs
        return .done
  | .build name initial graph =>
    finding (fun work => return (← work.handles.get? initial, ← work.builders.get? name))
      fun (initial, builder) => do
        Act.modify (·.dropBuilder name)
        let built ← Act.lift (builder.build initial)
        Act.modify (·.setGraph graph built)
        return .done
  | .compareHandles left right =>
    finding (fun work => return (← work.handles.get? left, ← work.handles.get? right))
      fun (left, right) => return .comparison (compare left right) (left = right)
  | .create _ name value stateful => finding (·.graphs.get? name) fun graph => do
    Act.modify (·.dropGraph name)
    let created ← Act.lift (Stateful.create value graph)
    Act.modify (·.setStateful stateful created)
    return .done
  | .write _ name value => finding (·.values.get? name) fun stateful => do
    let written ← Act.lift (stateful.write value)
    Act.modify (·.setStateful name written)
    return .done
  | .read name => finding (·.values.get? name) fun stateful => return .value stateful.value
  | .currentHandle name => finding (·.values.get? name) fun stateful =>
    return .handle (some stateful.current)
  | .showStateful name pretty => finding (·.values.get? name) fun stateful =>
    return .text ((← Act.lift stateful.shape).render pretty)
  | .size subject => finding (·.graphOf? subject) fun graph =>
    return .size graph.size graph.isEmpty
  | .initial subject => finding (·.graphOf? subject) fun graph =>
    return .handle (some graph.initial)
  | .handleOf subject name => finding (·.graphOf? subject) fun graph =>
    return .handle (graph.handleOf name)
  | .statesAfter subject handle =>
    finding (fun work => return (← work.graphOf? subject, ← work.handles.get? handle))
      fun (graph, id) => return .names ((← Act.lift (graph.statesAfter id)).map State.name)
  | .inspect subject handle value pretty =>
    finding (fun work => return (← work.graphOf? subject, ← work.handles.get? handle))
      fun (graph, id) => do
        match graph.state? id with
        | none => return .foreign
        | some state =>
          let accepted ← Act.lift (state.accepts value)
          return .state state.name accepted state.successors (state.shape.render pretty)
  | .showGraph subject pretty => finding (·.graphOf? subject) fun graph =>
    return .text ((← Act.lift graph.shape).render pretty)

def machine : Machine (Workspace V) (Request V) Violation (Reply V) :=
  ⟨attempt, Request.form⟩

end RuntimeContracts.Automaton

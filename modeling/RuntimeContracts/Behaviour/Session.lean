import RuntimeContracts.Behaviour.Declaration
import RuntimeContracts.Behaviour.Interleaving
import RuntimeContracts.Session.Machine

/-!
# Sessions on behaviours

Behaviours are named. Each request that mentions a context makes a new one, so that two locked
contexts never share a mutex, and a declaration shares one context between its members.
-/

namespace RuntimeContracts.Behaviour

inductive ContextKind where
  | free (routine : Routine)
  | locked

/-- A declaration is finalized on its own, or by its owner, who is asked for context and members. -/
inductive Origin where
  | loose
  | owner
deriving DecidableEq, Repr

inductive Request (A : Type) where
  | new (id name : String) (body : A → Client Unit)
  | inject (id : String) (context : ContextKind)
  | invoke (form : Form) (id : String) (args : A)
  | name (id : String)
  | showDebug (id : String) (pretty : Bool)
  | finalize (form : Form) (origin : Origin) (context : ContextKind) (members : Declaration)
  | runThreads (context : ContextKind) (threads jobs : Nat)

inductive Reply where
  | done
  | text (t : String)
  | count (n : Nat)

structure Roster (A : Type) where
  behaviours : Named (Behaviour A)
  locks : Locks

variable {A : Type}

def Request.form : Request A → Form
  | .invoke form .. | .finalize form .. => form
  | _ => .checked

namespace Roster

def empty : Roster A := ⟨Named.empty, []⟩

def insert (id : String) (behaviour : Behaviour A) (roster : Roster A) : Roster A :=
  { roster with behaviours := roster.behaviours.insert id behaviour }

def setBehaviours (behaviours : Named (Behaviour A)) (roster : Roster A) : Roster A :=
  { roster with behaviours }

def setLocks (locks : Locks) (roster : Roster A) : Roster A := { roster with locks }

def hasAll (roster : Roster A) (ids : List String) : Bool :=
  ids.all fun id => (roster.behaviours.get? id).isSome

end Roster

abbrev Step (A α : Type) := Act (Roster A) Violation α

/-- A new context of the kind; a locked one gets a mutex of its own. -/
def makeContext : ContextKind → Step A ExecutionContext
  | .free routine => return .free routine
  | .locked => do
    let roster ← Act.get
    Act.set { roster with locks := roster.locks ++ [Mutex.new] }
    return .locked roster.locks.length

def withBehaviour {α : Type} (id : String) (act : Behaviour A → Step A α) : Step A (Option α) := do
  match (← Act.get).behaviours.get? id with
  | none => pure none
  | some behaviour => return some (← act behaviour)

/-- What an owner notes before its declaration is finalized. -/
def Origin.notes : Origin → Trace
  | .loose => [.ownerDeclared]
  | .owner => [.ownerAskedContext, .ownerDeclared]

/-- Finalizes the owner of the members, or only the declaration that it fills. -/
def finalizeAs (origin : Origin) (members : Declaration) (context : ExecutionContext) :
    Step A Nat :=
  let owner := Owner.noting context members
  Act.within Roster.behaviours Roster.setBehaviours <| match origin with
    | .loose => do
      let members ← Act.lift (owner.declare [])
      members.finalize context
    | .owner => owner.finalize

theorem finalizeAs_apply (origin : Origin) (members : Declaration) (context : ExecutionContext)
    (roster : Roster A) : finalizeAs origin members context roster =
      (roster.setBehaviours (members.finalize context roster.behaviours).1,
        (members.finalize context roster.behaviours).2.after origin.notes) := by
  cases origin with
  | loose | owner => rfl

def finalizeIn (kind : ContextKind) (origin : Origin) (members : Declaration) : Step A Nat := do
  let context ← makeContext kind
  finalizeAs origin members context

open Interleaving in
/-- The counter after each thread ran its jobs in one shared context of the kind. -/
def countJobs (threads jobs : Nat) : ContextKind → Nat
  | .locked => World.finalCounter .locked (List.replicate threads (List.replicate jobs increment))
  | .free routine =>
    World.finalCounter .free
      (List.replicate threads (List.replicate (jobs * routine.calls) increment))

variable [Describe A]

def attempt : Request A → Step A (Option Reply)
  | .new id name body => do
    Act.modify (·.insert id (Behaviour.new name body))
    return some .done
  | .inject id kind => withBehaviour id fun behaviour => do
    let context ← makeContext kind
    Act.modify (·.insert id (behaviour.inject context))
    return .done
  | .invoke _ id args => withBehaviour id fun behaviour => do
    Act.within Roster.locks Roster.setLocks (behaviour.invoke args)
    return .done
  | .name id => withBehaviour id fun behaviour => return .text behaviour.name
  | .showDebug id pretty => withBehaviour id fun behaviour =>
    return .text (behaviour.shape.render pretty)
  | .finalize _ origin kind members => do
    if (← Act.get).hasAll members.behaviourIds then
      return some (.count (← finalizeIn kind origin members))
    else
      return none
  | .runThreads kind threads jobs => return some (.count (countJobs threads jobs kind))

def machine : Machine (Roster A) (Request A) Violation Reply :=
  ⟨attempt, Request.form⟩

end RuntimeContracts.Behaviour

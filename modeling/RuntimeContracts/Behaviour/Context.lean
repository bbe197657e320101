import RuntimeContracts.Behaviour.Mutex
import RuntimeContracts.Behaviour.Routine
import RuntimeContracts.Run.Act

/-!
# Execution contexts

A behaviour runs its body as a job of an execution context: a free one, which is just a routine, or
a locked one, which holds a mutex while it calls the job. The mutexes of all locked contexts are
kept in one list.
-/

namespace RuntimeContracts

inductive ExecutionContext where
  | free (routine : Routine)
  | locked (lock : Nat)

abbrev Locks := List Mutex

namespace Locks

def lockAt (locks : Locks) (lock : Nat) : Mutex := locks.getD lock Mutex.new

end Locks

namespace ExecutionContext

variable {A ε : Type}

/-- A context whose own lock the caller holds already can never go on. -/
def selfLockText : String := "deadlock"

def run (work : A → Run Empty Unit) (args : A) : ExecutionContext → Act Locks ε Unit
  | .free routine => Act.lift (routine.run work (some args))
  | .locked lock => fun locks =>
    match (locks.lockAt lock).acquire with
    | none => (locks, Run.abort selfLockText)
    | some mutex =>
      let run := Routine.callOnce.run work (some args)
      (locks.set lock (mutex.release (!run.outcome.isReturned)), run)

end ExecutionContext
end RuntimeContracts

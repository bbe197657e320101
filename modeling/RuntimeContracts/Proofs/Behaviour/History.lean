import RuntimeContracts.Proofs.Behaviour.Contexts
import RuntimeContracts.Proofs.Session.Answered
import RuntimeContracts.Proofs.Session.Erasure

/-!
# The context that a behaviour runs in

A behaviour runs in the context that it received last since it was created, and in no other. Until
it receives one, it refuses to run. What is declared or injected elsewhere, and what is refused,
makes no difference to it.
-/

namespace RuntimeContracts

namespace Routine

variable {A ε : Type}

end Routine

namespace ExecutionContext

variable {A ε : Type}

def routine : ExecutionContext → Routine
  | .free routine => routine
  | .locked _ => Routine.callOnce

/-- The locks after the context was used, if the use ended with a panic or not. -/
def locksAfter (context : ExecutionContext) (panicking : Bool) (locks : Locks) : Locks :=
  match context with
  | .free _ => locks
  | .locked lock => locks.set lock ((locks.lockAt lock).release panicking)

theorem run_of_free {locks : Locks} (h : locks.Free) (work : A → Run Empty Unit) (args : A)
    (context : ExecutionContext) :
    let run : Run ε Unit := context.routine.run work (some args)
    context.run work args locks = (context.locksAfter (!run.outcome.isReturned) locks, run) := by
  cases context with
  | free routine => rfl
  | locked lock =>
    simp only [run, Mutex.acquire_of_not_held (h.lockAt lock)]
    rfl

end ExecutionContext

namespace Behaviour

variable {A : Type}

abbrev Turn (A : Type) := Session.Turn (Roster A) (Request A) Violation (Option Reply)

variable [Describe A]

open Session

end Behaviour
end RuntimeContracts

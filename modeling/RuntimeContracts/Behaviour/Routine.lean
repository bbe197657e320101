import RuntimeContracts.Run.Basic

/-!
# Routines around a job

A routine is what an execution context does with the job that it is given: it may leave trace
entries, call the job any number of times, see how each call ended, and finish or panic. The job
takes its arguments at the first call; a later call finds them gone and does nothing.
-/

namespace RuntimeContracts

inductive Routine where
  | finish
  | panic (text : String)
  | say (entry : Entry) (next : Routine)
  | callJob (next : Client Unit → Routine)

namespace Routine

/-- Goes on as the given routine after a job that returned, and panics with a job that panicked. -/
def unlessPanicked (next : Routine) : Client Unit → Routine
  | .ok () => next
  | .error text => panic text

def callOnce : Routine := .callJob (unlessPanicked .finish)

/-- How often the job is called, if it always returns. -/
def calls : Routine → Nat
  | .finish => 0
  | .panic _ => 0
  | .say _ next => next.calls
  | .callJob next => (next (.ok ())).calls + 1

variable {A ε : Type}

/-- Runs the routine around the work on the arguments, while they are there. -/
def run (work : A → Run Empty Unit) : Routine → Option A → Run ε Unit
  | .finish, _ => pure ()
  | .panic text, _ => Run.panic text
  | .say entry next, args => (next.run work args).after [entry]
  | .callJob next, none => (next (.ok ())).run work none
  | .callJob next, some args =>
    let job := work args
    match job.outcome with
    | .returned () => ((next (.ok ())).run work none).after job.trace
    | .panicked text => ((next (.error text)).run work none).after job.trace
    | .aborted text => ⟨job.trace, .aborted text⟩
    | .refused e => nomatch e

end Routine
end RuntimeContracts

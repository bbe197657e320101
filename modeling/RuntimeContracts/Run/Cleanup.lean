import RuntimeContracts.Run.Basic

/-!
# Cleanup

A cleanup runs after the work however the work ended, and cannot refuse. A cleanup that panics
replaces what the work returned or refused; a second panic, while the first is on its way, aborts.
-/

namespace RuntimeContracts

/-- The text left behind by a panic inside the cleanup of another panic. -/
def doublePanicText : String := "thread caused non-unwinding panic. aborting.\n"

namespace Outcome

variable {ε α : Type}

/-- The outcome of work with this outcome after a cleanup with the given one. -/
def afterCleanup (work : Outcome ε α) : Outcome Empty Unit → Outcome ε α
  | .returned () => work
  | .refused e => nomatch e
  | .aborted text => .aborted text
  | .panicked text =>
    match work with
    | .panicked _ => .aborted doublePanicText
    | .aborted first => .aborted first
    | _ => .panicked text

end Outcome

namespace Run

variable {ε α : Type}

def cleanedUpBy (work : Run ε α) (cleanup : Run Empty Unit) : Run ε α :=
  match work.outcome with
  | .aborted _ => work
  | _ => ⟨work.trace ++ cleanup.trace, work.outcome.afterCleanup cleanup.outcome⟩

theorem cleanedUpBy_of_returned (work : Run ε α) {cleanup : Run Empty Unit}
    (hw : work.outcome.isAborted = false) (hc : cleanup.outcome = .returned ()) :
    work.cleanedUpBy cleanup = ⟨work.trace ++ cleanup.trace, work.outcome⟩ := by
  cases h : work.outcome <;> simp_all [cleanedUpBy, Outcome.afterCleanup, Outcome.isAborted]

end Run
end RuntimeContracts

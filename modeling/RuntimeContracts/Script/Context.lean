import RuntimeContracts.Behaviour.Session

/-!
# Scripted contexts

Contexts that leave a trace entry on entering and on leaving, and call the job once, twice or never.
A job that panics takes the context with it, so that it never leaves.
-/

namespace RuntimeContracts.Script.Context

open Behaviour (ContextKind)

def callTimes (next : Routine) : Nat → Routine
  | 0 => next
  | times + 1 => .callJob (Routine.unlessPanicked (callTimes next times))

def traced (name : String) (times : Nat) : Routine :=
  .say (.contextEntered name) (callTimes (.say (.contextLeft name) .finish) times)

def record : Routine := traced "record" 1

def twice : Routine := traced "twice" 2

def never : Routine := traced "never" 0

def byName : String → Option ContextKind
  | "inline" => some (.free Routine.callOnce)
  | "locked" => some .locked
  | "record" => some (.free record)
  | "twice" => some (.free twice)
  | "never" => some (.free never)
  | _ => none

end RuntimeContracts.Script.Context

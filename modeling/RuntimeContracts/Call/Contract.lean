import RuntimeContracts.Call.Error
import RuntimeContracts.Predicate.Search
import RuntimeContracts.Run.Cleanup

/-!
# Contracted calls

A call runs its hooks, checks the preconditions on the arguments, calls the target, and checks the
postconditions on the result. The after-hooks run on every way out: return, refusal and panic.
-/

namespace RuntimeContracts

/-- A hook sees the arguments and may panic. -/
structure Hook (A : Type) where
  name : String
  action : A → Client Unit

namespace Hook

variable {A ε : Type} [Describe A]

def run (phase : HookPhase) (args : A) (hook : Hook A) : Run ε Unit := do
  Run.emit (.hookRun phase hook.name (describe args))
  Run.call (hook.action args)

def runAll (phase : HookPhase) (args : A) : List (Hook A) → Run ε Unit
  | [] => pure ()
  | hook :: rest => do
    hook.run phase args
    runAll phase args rest

end Hook

/-- The target answers with a result or an error of its own, or panics. -/
structure CallContract (A R ε : Type) where
  target : A → Client (Except ε R)
  preconditions : List (Predicate A)
  postconditions : List (Predicate R)
  before : List (Hook A)
  after : List (Hook A)

namespace CallContract

variable {A R ε : Type}

def new (target : A → Client (Except ε R)) : CallContract A R ε := ⟨target, [], [], [], []⟩

/-- A target without errors of its own. -/
def ofTotal (target : A → Client R) : CallContract A R ε := new fun args => .ok <$> target args

def withTarget (contract : CallContract A R ε) (target : A → Client (Except ε R)) :
    CallContract A R ε :=
  { contract with target }

def addBefore (contract : CallContract A R ε) (hook : Hook A) : CallContract A R ε :=
  { contract with before := contract.before ++ [hook] }

def addAfter (contract : CallContract A R ε) (hook : Hook A) : CallContract A R ε :=
  { contract with after := contract.after ++ [hook] }

def require (contract : CallContract A R ε) (p : Predicate A) : CallContract A R ε :=
  { contract with preconditions := contract.preconditions ++ [p] }

def ensure (contract : CallContract A R ε) (p : Predicate R) : CallContract A R ε :=
  { contract with postconditions := contract.postconditions ++ [p] }

def checkArguments (contract : CallContract A R ε) (args : A) : Run (CallError ε) Unit := do
  match ← Predicate.firstFailing contract.preconditions args with
  | none => pure ()
  | some (index, p) =>
    Run.report (.preconditionRejected index p.name)
    Run.refuse (.precondition index p.name)

def checkResult (contract : CallContract A R ε) (result : R) : Run (CallError ε) Unit := do
  match ← Predicate.firstFailing contract.postconditions result with
  | none => pure ()
  | some (index, p) =>
    Run.report (.postconditionRejected index p.name)
    Run.refuse (.postcondition index p.name)

def shape (contract : CallContract A R ε) : Shape :=
  .openRecord "FunctionContract"
    [("preconditions", .list (contract.preconditions.map Predicate.shape)),
      ("postconditions", .list (contract.postconditions.map Predicate.shape)),
      ("before_hooks", .number contract.before.length),
      ("after_hooks", .number contract.after.length)]

variable [Describe A]

def callTarget (contract : CallContract A R ε) (args : A) : Run (CallError ε) R := do
  Run.emit (.targetCalled (describe args))
  match ← Run.call (contract.target args) with
  | .ok result => return result
  | .error error => Run.refuse (.target error)

/-- Everything but the after-hooks. -/
def guardedCall (contract : CallContract A R ε) (args : A) : Run (CallError ε) R := do
  Hook.runAll .before args contract.before
  contract.checkArguments args
  let result ← contract.callTarget args
  contract.checkResult result
  return result

def invoke (contract : CallContract A R ε) (args : A) : Run (CallError ε) R :=
  (contract.guardedCall args).cleanedUpBy (Hook.runAll .after args contract.after)

end CallContract
end RuntimeContracts

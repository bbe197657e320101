import RuntimeContracts.Run.FailFast

/-!
# Sessions

A machine attempts requests on its state, each in the form that the request asks for. A session
answers a list of requests one after the other and keeps, for each, the run and the state after it;
it ends early only when a run aborts.
-/

namespace RuntimeContracts

structure Report (σ ε α : Type) where
  run : Run ε α
  state : σ

namespace Session

variable {σ ρ ε α : Type}

def reports (step : ρ → Act σ ε α) : σ → List ρ → List (Report σ ε α)
  | _, [] => []
  | s, request :: rest =>
    let (s', run) := step request s
    ⟨run, s'⟩ :: if run.outcome.isAborted then [] else reports step s' rest

/-- The state after the requests, whether or not a run aborted on the way. -/
def finalState (step : ρ → Act σ ε α) (s : σ) (requests : List ρ) : σ :=
  requests.foldl (fun s request => (step request s).1) s

@[simp] theorem reports_nil (step : ρ → Act σ ε α) (s : σ) : reports step s [] = [] := rfl

theorem reports_cons (step : ρ → Act σ ε α) (s : σ) (request : ρ) (rest : List ρ) :
    reports step s (request :: rest) =
      ⟨(step request s).2, (step request s).1⟩ ::
        if (step request s).2.outcome.isAborted then [] else
          reports step (step request s).1 rest := rfl

@[simp] theorem finalState_nil (step : ρ → Act σ ε α) (s : σ) : finalState step s [] = s := rfl

@[simp] theorem finalState_cons (step : ρ → Act σ ε α) (s : σ) (request : ρ) (rest : List ρ) :
    finalState step s (request :: rest) = finalState step (step request s).1 rest := rfl

/-- What every step keeps, every run of steps keeps. -/
theorem finalState_induction {step : ρ → Act σ ε α} {motive : σ → Prop}
    (hstep : ∀ request s, motive s → motive (step request s).1) {s : σ} (hs : motive s)
    (requests : List ρ) : motive (finalState step s requests) := by
  induction requests generalizing s with
  | nil => exact hs
  | cons request rest ih => exact ih (hstep request s hs)

end Session

/-- An attempt answers `none` when the object that it needs does not exist. -/
structure Machine (σ ρ ε α : Type) where
  attempt : ρ → Act σ ε (Option α)
  form : ρ → Form

namespace Machine

variable {σ ρ ε α : Type} [Diagnosis ε]

def step (machine : Machine σ ρ ε α) (mode : FailureMode) (request : ρ) : Act σ ε (Option α) :=
  (machine.attempt request).inForm mode (machine.form request)

def session (machine : Machine σ ρ ε α) (mode : FailureMode) :
    σ → List ρ → List (Report σ ε (Option α)) :=
  Session.reports (machine.step mode)

/-- The failure mode never changes what a step does to the state. -/
@[simp] theorem step_fst (machine : Machine σ ρ ε α) (mode : FailureMode) (request : ρ) (s : σ) :
    (machine.step mode request s).1 = (machine.attempt request s).1 := rfl

theorem step_eq_attempt (machine : Machine σ ρ ε α) (mode : FailureMode) {request : ρ} {s : σ}
    (h : ∀ e, (machine.attempt request s).2.outcome ≠ .refused e) :
    machine.step mode request s = machine.attempt request s :=
  Prod.ext rfl (Run.inForm_eq_self mode h (machine.form request))

def Along (machine : Machine σ ρ ε α) (P : ρ → σ → Prop) : σ → List ρ → Prop
  | _, [] => True
  | s, request :: rest => P request s ∧ machine.Along P (machine.attempt request s).1 rest

end Machine

/-- Works on the object if there is one; the act may replace or remove it. -/
def withObject {τ ε α : Type} (act : τ → Act (Option τ) ε α) : Act (Option τ) ε (Option α) := do
  match ← Act.get with
  | none => pure none
  | some object => return some (← act object)

end RuntimeContracts

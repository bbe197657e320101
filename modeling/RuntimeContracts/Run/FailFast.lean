import RuntimeContracts.Run.Act

/-!
# Failing fast

An operation has a checked form, which hands its violation back, and a fail-fast form, which
enforces it: the violation is reported and the program stops as the failure mode says. The two forms
differ only after everything that the checked form does.
-/

namespace RuntimeContracts

inductive Form where
  | checked
  | failFast
deriving DecidableEq, Repr

/-- How a text stops the program; an abort writes it on a line of its own. -/
def FailureMode.stop {ε α : Type} (text : String) : FailureMode → Outcome ε α
  | .abort => .aborted (text ++ "\n")
  | .panic => .panicked text

/-- The report of a violation that is being enforced. -/
def Diagnosis.event {ε : Type} [Diagnosis ε] (e : ε) : Event :=
  .violationEnforced (Diagnosis.kind e) (Diagnosis.isDefect e) (Diagnosis.message e)

/-- The report of an enforced violation has a message of its own. -/
theorem Diagnosis.message_event_ne {ε : Type} [Diagnosis ε] (e : ε) {text : String}
    (h : ¬ "contract violation: ".toList <+: text.toList) :
    (Diagnosis.event e).message ≠ text := by
  rintro rfl
  refine h ⟨(Diagnosis.message e).toList, ?_⟩
  rw [← String.toList_append]
  rfl

namespace Run

variable {ε α : Type} [Diagnosis ε]

def stopWith (mode : FailureMode) (e : ε) : Run ε α :=
  ⟨[.reported (Diagnosis.event e)], mode.stop (Diagnosis.stopText e)⟩

def enforce (mode : FailureMode) (run : Run ε α) : Run ε α :=
  match run.outcome with
  | .refused e => (stopWith mode e).after run.trace
  | _ => run

def inForm (mode : FailureMode) (run : Run ε α) : Form → Run ε α
  | .checked => run
  | .failFast => run.enforce mode

theorem enforce_of_refused (mode : FailureMode) {run : Run ε α} {e : ε}
    (h : run.outcome = .refused e) :
    run.enforce mode = ⟨run.trace ++ [.reported (Diagnosis.event e)],
      mode.stop (Diagnosis.stopText e)⟩ := by
  simp [enforce, h, stopWith, after]

theorem enforce_eq_self (mode : FailureMode) {run : Run ε α} (h : ∀ e, run.outcome ≠ .refused e) :
    run.enforce mode = run := by
  unfold enforce
  split
  · next e he => exact absurd he (h e)
  · rfl

theorem inForm_eq_self (mode : FailureMode) {run : Run ε α} (h : ∀ e, run.outcome ≠ .refused e)
    (form : Form) : run.inForm mode form = run := by
  cases form with
  | checked => rfl
  | failFast => exact enforce_eq_self mode h

/-- A form adds to the trace at most the report of a violation. -/
theorem trace_inForm (mode : FailureMode) (run : Run ε α) (form : Form) :
    (run.inForm mode form).trace = run.trace ∨
      ∃ e : ε, (run.inForm mode form).trace = run.trace ++ [.reported (Diagnosis.event e)] := by
  cases form with
  | checked => exact .inl rfl
  | failFast =>
    rw [inForm]
    cases ho : run.outcome with
    | refused e =>
      rw [enforce_of_refused mode ho]
      exact .inr ⟨e, rfl⟩
    | returned a | panicked text | aborted text =>
      rw [enforce_eq_self mode (by simp [ho])]
      exact .inl rfl

end Run

/-- The act in the given form; its effect on the state is the same in both. -/
def Act.inForm {σ ε α : Type} [Diagnosis ε] (mode : FailureMode) (act : Act σ ε α) (form : Form) :
    Act σ ε α := fun s =>
  let (s', run) := act s
  (s', run.inForm mode form)

@[simp] theorem Act.inForm_fst {σ ε α : Type} [Diagnosis ε] (mode : FailureMode) (act : Act σ ε α)
    (form : Form) (s : σ) : (act.inForm mode form s).1 = (act s).1 := rfl

@[simp] theorem Act.inForm_snd {σ ε α : Type} [Diagnosis ε] (mode : FailureMode) (act : Act σ ε α)
    (form : Form) (s : σ) : (act.inForm mode form s).2 = (act s).2.inForm mode form := rfl

end RuntimeContracts

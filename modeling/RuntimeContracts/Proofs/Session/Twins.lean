import RuntimeContracts.Proofs.Session.CallsLive
import RuntimeContracts.Proofs.Session.ValuesLive

/-!
# Sessions and their twins

The twin of a session asks for some of its requests in the other form. In panic mode both go through
the same states, and their runs differ only where a request is refused: the fail-fast form then
reports the violation as an event and panics with it.
-/

namespace RuntimeContracts

namespace Run

variable {ε α : Type} [Diagnosis ε]

structure FailsFastAs (checked failFast : Run ε α) : Prop where
  returned : ∀ a, checked.outcome = .returned a → failFast.outcome = .returned a
  panicked : ∀ text, checked.outcome = .panicked text → failFast.outcome = .panicked text
  refused : ∀ e, checked.outcome = .refused e → failFast.outcome =
    .panicked ("contract violation (" ++ (Diagnosis.kind e).label ++ "): " ++ Diagnosis.message e)
  live : checked.Live ∧ failFast.Live
  trace_eq : (∀ e, checked.outcome ≠ .refused e) → failFast.trace = checked.trace
  shown_refused : ∀ e, checked.outcome = .refused e →
    ∃ event, event.level = .error ∧ event.message = "contract violation: " ++ Diagnosis.message e ∧
      event.fields = [("kind", (Diagnosis.kind e).label),
        ("configuration_defect", if Diagnosis.isDefect e then "true" else "false")] ∧
      ∀ watch, failFast.trace.shown watch =
        checked.trace.shown watch ++ if watch.events then [.event event] else []

theorem failsFastAs_enforce {run : Run ε α} (h : run.Live) :
    run.FailsFastAs (run.enforce .panic) := by
  cases ho : run.outcome with
  | refused e =>
    have henforce := enforce_of_refused .panic ho
    refine ⟨by simp [ho], by simp [ho], ?_, ⟨h, ?_⟩, ?_, ?_⟩
    · intro e' he
      rw [ho] at he
      cases he
      rw [henforce]
      rfl
    · rw [henforce]
      rfl
    · intro hnone
      exact absurd ho (hnone e)
    · intro e' he
      rw [ho] at he
      cases he
      refine ⟨Diagnosis.event e, rfl, rfl, rfl, fun watch => ?_⟩
      rw [henforce, Trace.shown_append]
      cases hevents : watch.events <;> simp [Trace.shown, Entry.isShown, Entry.line, hevents]
  | returned a | panicked text | aborted text =>
    have hnone : ∀ e, run.outcome ≠ .refused e := by simp [ho]
    rw [enforce_eq_self .panic hnone]
    exact ⟨fun _ => id, fun _ => id, fun e he => absurd he (hnone e), ⟨h, h⟩, fun _ => rfl,
      fun e he => absurd he (hnone e)⟩

def Twin : Form → Form → Run ε α → Run ε α → Prop
  | .checked, .failFast, first, second => first.FailsFastAs second
  | .failFast, .checked, first, second => second.FailsFastAs first
  | _, _, first, second => first = second

theorem twin_inForm {run : Run ε α} (h : run.Live) (first second : Form) :
    Twin first second (run.inForm .panic first) (run.inForm .panic second) := by
  cases first with
  | checked =>
    cases second with
    | checked => rfl
    | failFast => exact failsFastAs_enforce h
  | failFast =>
    cases second with
    | checked => exact failsFastAs_enforce h
    | failFast => rfl

theorem Live.inForm {run : Run ε α} (h : run.Live) (form : Form) :
    (run.inForm .panic form).Live := by
  cases form with
  | checked => exact h
  | failFast => exact (failsFastAs_enforce h).live.2

end Run

namespace Machine

variable {σ ρ ε α : Type} [Diagnosis ε]

inductive TwinReports (machine : Machine σ ρ ε α) (inForm : Form → ρ → ρ) :
    List (ρ × Form) → List (Report σ ε (Option α)) → List (Report σ ε (Option α)) → Prop where
  | nil : TwinReports machine inForm [] [] []
  | cons {request : ρ} {form : Form} {rest : List (ρ × Form)}
      {report twin : Report σ ε (Option α)} {reports twins : List (Report σ ε (Option α))}
      (hstate : report.state = twin.state)
      (hrun : Run.Twin (machine.form request) (machine.form (inForm form request)) report.run
        twin.run)
      (hrest : TwinReports machine inForm rest reports twins) :
      TwinReports machine inForm ((request, form) :: rest) (report :: reports) (twin :: twins)

def AgreesWithTwin (machine : Machine σ ρ ε α) (inForm : Form → ρ → ρ) (s : σ)
    (steps : List (ρ × Form)) : Prop :=
  machine.TwinReports inForm steps (machine.session .panic s (steps.map Prod.fst))
    (machine.session .panic s (steps.map fun step => inForm step.2 step.1))

/-- A session agrees with its twin if attempts do not depend on the form and do not abort. -/
theorem agreesWithTwin {machine : Machine σ ρ ε α} {inForm : Form → ρ → ρ} {I : σ → Prop}
    {P : ρ → σ → Prop}
    (hform : ∀ form request, machine.attempt (inForm form request) = machine.attempt request)
    (hstep : ∀ request s, I s → P request s →
      I (machine.attempt request s).1 ∧ (machine.attempt request s).2.Live)
    {s : σ} (hs : I s) (steps : List (ρ × Form)) (halong : machine.Along P s (steps.map Prod.fst)) :
    machine.AgreesWithTwin inForm s steps := by
  induction steps generalizing s with
  | nil => exact .nil
  | cons step rest ih =>
    obtain ⟨request, form⟩ := step
    obtain ⟨hfirst, hrest⟩ := halong
    obtain ⟨hkept, hlive⟩ := hstep request s hs hfirst
    have hagree := ih hkept hrest
    -- Both sessions go on, and from the same state.
    have hgoes : (machine.step .panic request s).2.outcome.isAborted = false :=
      hlive.inForm (machine.form request)
    have htwin : machine.step .panic (inForm form request) s =
        ((machine.attempt request s).1,
          (machine.attempt request s).2.inForm .panic (machine.form (inForm form request))) := by
      unfold Machine.step
      rw [hform]
      rfl
    have htwinGoes : (machine.step .panic (inForm form request) s).2.outcome.isAborted = false := by
      rw [htwin]
      exact hlive.inForm _
    unfold AgreesWithTwin session
    rw [List.map_cons, List.map_cons, Session.reports_cons, Session.reports_cons, hgoes, htwinGoes,
      htwin]
    exact .cons rfl (Run.twin_inForm hlive _ _) hagree

omit [Diagnosis ε] in
theorem along_true (machine : Machine σ ρ ε α) (s : σ) (requests : List ρ) :
    machine.Along (fun _ _ => True) s requests := by
  induction requests generalizing s with
  | nil => trivial
  | cons request rest ih => exact ⟨trivial, ih _⟩

theorem agreesWithTwin_of_safe {machine : Machine σ ρ ε α} {inForm : Form → ρ → ρ} {I : σ → Prop}
    (hform : ∀ form request, machine.attempt (inForm form request) = machine.attempt request)
    (hsafe : ∀ request, Act.Safe I (machine.attempt request)) {s : σ} (hs : I s)
    (steps : List (ρ × Form)) : machine.AgreesWithTwin inForm s steps :=
  agreesWithTwin hform (fun request s hs _ => hsafe request s hs) hs steps
    (machine.along_true s _)

end Machine

/-! ## The requests in another form -/

def Constrained.Request.inForm {V : Type} (form : Form) : Request V → Request V
  | .create _ value constraints => .create form value constraints
  | .write _ value => .write form value
  | request => request

def Linear.Request.inForm {V : Type} (form : Form) : Request V → Request V
  | .enter _ value strictness sequence => .enter form value strictness sequence
  | .write _ value => .write form value
  | request => request

def Unique.Request.inForm {V : Type} (form : Form) : Request V → Request V
  | .read _ slot => .read form slot
  | request => request

def Modal.Request.inForm {V : Type} (form : Form) : Request V → Request V
  | .write _ value => .write form value
  | .read _ => .read form
  | request => request

def Automaton.Request.inForm {V : Type} (form : Form) : Request V → Request V
  | .create _ graph value stateful => .create form graph value stateful
  | .write _ stateful value => .write form stateful value
  | request => request

def CallContract.Request.inForm {A R ε : Type} (form : Form) : Request A R ε → Request A R ε
  | .invoke _ args => .invoke form args
  | request => request

def Behaviour.Request.inForm {A : Type} (form : Form) : Request A → Request A
  | .invoke _ id args => .invoke form id args
  | .finalize _ origin context members => .finalize form origin context members
  | request => request

section

variable {V A R ε : Type} [Describe V] [DecidableEq V] [Describe A]

omit [DecidableEq V] in
theorem Constrained.attempt_inForm (form : Form) (request : Constrained.Request V) :
    attempt (request.inForm form) = attempt request := by
  cases request <;> rfl

omit [DecidableEq V] in
theorem Linear.attempt_inForm (form : Form) (request : Linear.Request V) :
    attempt (request.inForm form) = attempt request := by
  cases request <;> rfl

theorem Unique.attempt_inForm (form : Form) (request : Unique.Request V) :
    attempt (request.inForm form) = attempt request := by
  cases request <;> rfl

omit [DecidableEq V] in
theorem Modal.attempt_inForm (form : Form) (request : Modal.Request V) :
    attempt (request.inForm form) = attempt request := by
  cases request <;> rfl

omit [DecidableEq V] in
theorem Automaton.attempt_inForm (form : Form) (request : Automaton.Request V) :
    attempt (request.inForm form) = attempt request := by
  cases request <;> rfl

theorem CallContract.attempt_inForm (form : Form) (request : CallContract.Request A R ε) :
    attempt (request.inForm form) = attempt request := by
  cases request <;> rfl

theorem Behaviour.attempt_inForm (form : Form) (request : Behaviour.Request A) :
    attempt (request.inForm form) = attempt request := by
  cases request <;> rfl

end
end RuntimeContracts

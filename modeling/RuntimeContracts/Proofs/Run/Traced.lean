import RuntimeContracts.Proofs.Predicate.Verdict
import RuntimeContracts.Run.FailFast

/-!
# What is traced

The events of the lowest level report what was committed. Tests and enforced violations add none of
them to a trace. A run that traces its return reports one such event if it returns, and none if it
stops before.
-/

namespace RuntimeContracts

namespace Trace

/-- The events of the lowest level. -/
def traced (trace : Trace) : List Event := trace.events.filter (·.level = .trace)

@[simp] theorem traced_nil : traced [] = [] := rfl

@[simp] theorem traced_append (first second : Trace) :
    traced (first ++ second) = traced first ++ traced second := by
  simp [traced]

theorem traced_reported {event : Event} (h : event.level = .trace) :
    traced [.reported event] = [event] := by
  simp [traced, events, Entry.event?, h]

theorem traced_flatMap {α : Type} {f : α → Trace} (h : ∀ a, traced (f a) = []) (items : List α) :
    traced (items.flatMap f) = [] := by
  induction items with
  | nil => rfl
  | cons a rest ih => rw [List.flatMap_cons, traced_append, h, ih, List.append_nil]

end Trace

theorem Predicate.traced_tests {V : Type} (v : V) (p : Predicate V) :
    Trace.traced (p.tests v) = [] := by
  rw [Trace.traced, p.events_tests v, List.filter_nil]

namespace Run

variable {ε α β : Type}

theorem traced_inForm [Diagnosis ε] (mode : FailureMode) (run : Run ε α) (form : Form) :
    (run.inForm mode form).trace.traced = run.trace.traced := by
  rcases run.trace_inForm mode form with htrace | ⟨e, htrace⟩
  · rw [htrace]
  · have hreport : Trace.traced [.reported (Diagnosis.event e)] = [] := rfl
    rw [htrace, Trace.traced_append, hreport, List.append_nil]

theorem isReturned_inForm [Diagnosis ε] (mode : FailureMode) (run : Run ε α) (form : Form) :
    (run.inForm mode form).outcome.isReturned = run.outcome.isReturned := by
  cases form with
  | checked => rfl
  | failFast =>
    rw [inForm]
    cases ho : run.outcome with
    | refused e =>
      rw [enforce_of_refused mode ho]
      cases mode <;> rfl
    | returned a | panicked text | aborted text => rw [enforce_eq_self mode (by simp [ho]), ho]

def Untraced (run : Run ε α) : Prop := run.trace.traced = []

/-- The run traces its return, and nothing if it stops before. -/
def TracedOnce (run : Run ε α) : Prop :=
  run.trace.traced.length = if run.outcome.isReturned then 1 else 0

theorem untraced_pure (a : α) : (pure a : Run ε α).Untraced := rfl

theorem Untraced.bind {run : Run ε α} (h : run.Untraced) {next : α → Run ε β}
    (hnext : ∀ a, (next a).Untraced) : (run >>= next).Untraced := by
  unfold Untraced at h
  cases ho : run.outcome with
  | returned a =>
    rw [Untraced, bind_of_returned ho, trace_after, Trace.traced_append, h, hnext a,
      List.nil_append]
  | refused e => rw [Untraced, bind_of_refused ho, h]
  | panicked text => rw [Untraced, bind_of_panicked ho, h]
  | aborted text => rw [Untraced, bind_of_aborted ho, h]

theorem tracedOnce_refuse (e : ε) : (refuse e : Run ε α).TracedOnce := rfl

theorem tracedOnce_report {event : Event} (h : event.level = .trace) (a : α) :
    (report event >>= fun _ => pure a : Run ε α).TracedOnce := by
  have htraced : Trace.traced [.reported event] = [event] := Trace.traced_reported h
  rw [TracedOnce, report, emit_bind, trace_after, trace_pure, List.append_nil, htraced]
  rfl

/-- What goes on from an untraced run traces the return of the whole. -/
theorem Untraced.bind_tracedOnce {run : Run ε α} (h : run.Untraced) {next : α → Run ε β}
    (hnext : ∀ a, (next a).TracedOnce) : (run >>= next).TracedOnce := by
  unfold Untraced at h
  cases ho : run.outcome with
  | returned a =>
    rw [TracedOnce, bind_of_returned ho, trace_after, outcome_after, Trace.traced_append, h,
      List.nil_append]
    exact hnext a
  | refused e =>
    rw [TracedOnce, bind_of_refused ho, h]
    rfl
  | panicked text =>
    rw [TracedOnce, bind_of_panicked ho, h]
    rfl
  | aborted text =>
    rw [TracedOnce, bind_of_aborted ho, h]
    rfl

theorem TracedOnce.map {run : Run ε α} (h : run.TracedOnce) (f : α → β) :
    TracedOnce ⟨run.trace, run.outcome.map f⟩ := by
  have hreturned : (run.outcome.map f).isReturned = run.outcome.isReturned := by
    cases run.outcome <;> rfl
  rw [TracedOnce, hreturned]
  exact h

theorem TracedOnce.inForm [Diagnosis ε] {run : Run ε α} (h : run.TracedOnce) (mode : FailureMode)
    (form : Form) : (run.inForm mode form).TracedOnce := by
  rw [TracedOnce, traced_inForm, isReturned_inForm]
  exact h

end Run
end RuntimeContracts

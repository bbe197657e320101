import RuntimeContracts.Session.Machine

/-!
# Live runs

A run is live if the program goes on after it. An act is safe for an invariant if it keeps the
invariant and all its runs from there are live; sequences of safe acts are safe.
-/

namespace RuntimeContracts

namespace Run

variable {ε α β : Type}

def Live (run : Run ε α) : Prop := run.outcome.isAborted = false

instance (run : Run ε α) : Decidable run.Live :=
  inferInstanceAs (Decidable (run.outcome.isAborted = false))

@[simp] theorem live_pure (a : α) : (pure a : Run ε α).Live := rfl

@[simp] theorem live_refuse (e : ε) : (refuse e : Run ε α).Live := rfl

@[simp] theorem live_panic (text : String) : (panic text : Run ε α).Live := rfl

@[simp] theorem live_emit (entry : Entry) : (emit entry : Run ε Unit).Live := rfl

@[simp] theorem live_report (event : Event) : (report event : Run ε Unit).Live := rfl

@[simp] theorem live_call (x : Client α) : (call x : Run ε α).Live := isAborted_outcome_call x

@[simp] theorem live_after {trace : Trace} {run : Run ε α} :
    (run.after trace).Live ↔ run.Live := Iff.rfl

theorem Live.bind {run : Run ε α} (h : run.Live) {next : α → Run ε β}
    (hnext : ∀ a, (next a).Live) : (run >>= next).Live := by
  cases ho : run.outcome with
  | returned a =>
    rw [bind_of_returned ho]
    exact hnext a
  | refused e =>
    rw [bind_of_refused ho]
    rfl
  | panicked text =>
    rw [bind_of_panicked ho]
    rfl
  | aborted text =>
    rw [Live, ho] at h
    cases h

theorem Live.andReturn {run : Run ε α} (h : run.Live) {f : α → β} :
    (run >>= fun a => pure (f a)).Live := h.bind fun a => live_pure (f a)

end Run

namespace Act

variable {σ ε α β : Type} {I : σ → Prop}

/-- The act keeps the invariant, and the program goes on after it. -/
def Safe (I : σ → Prop) (act : Act σ ε α) : Prop := ∀ s, I s → I (act s).1 ∧ (act s).2.Live

@[simp] theorem safe_pure (a : α) : Safe I (pure a : Act σ ε α) := fun _ hs => ⟨hs, rfl⟩

theorem safe_lift {run : Run ε α} (h : run.Live) : Safe I (lift run) := fun _ hs => ⟨hs, h⟩

@[simp] theorem safe_get : Safe I (get : Act σ ε σ) := fun _ hs => ⟨hs, rfl⟩

theorem safe_set {s : σ} (h : I s) : Safe I (set s : Act σ ε Unit) := fun _ _ => ⟨h, rfl⟩

theorem safe_modify {change : σ → σ} (h : ∀ s, I s → I (change s)) :
    Safe I (modify change : Act σ ε Unit) := fun s hs => ⟨h s hs, rfl⟩

theorem Safe.bind {act : Act σ ε α} (h : Safe I act) {next : α → Act σ ε β}
    (hnext : ∀ a, Safe I (next a)) : Safe I (act >>= next) := by
  intro s hs
  obtain ⟨hkept, hlive⟩ := h s hs
  cases ho : (act s).2.outcome with
  | returned a =>
    rw [bind_apply_of_returned ho]
    exact hnext a _ hkept
  | refused e =>
    rw [bind_apply_of_refused ho]
    exact ⟨hkept, rfl⟩
  | panicked text =>
    rw [bind_apply_of_panicked ho]
    exact ⟨hkept, rfl⟩
  | aborted text =>
    rw [Run.Live, ho] at hlive
    cases hlive

theorem Safe.andReturn {act : Act σ ε α} (h : Safe I act) {f : α → β} :
    Safe I (act >>= fun a => pure (f a)) := h.bind fun a => safe_pure (f a)

/-- What reads the state may use that the invariant holds of it. -/
theorem safe_get_bind {next : σ → Act σ ε β} (h : ∀ s, I s → Safe I (next s)) :
    Safe I (get >>= next) := fun s hs => h s hs s hs

theorem safe_withObject {τ : Type} {I : Option τ → Prop} {act : τ → Act (Option τ) ε α}
    (h : ∀ object, Safe I (act object)) : Safe I (withObject act) := by
  refine safe_get.bind fun object? => ?_
  cases object? with
  | none => exact safe_pure none
  | some object => exact (h object).andReturn

end Act
end RuntimeContracts

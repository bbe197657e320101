import RuntimeContracts.Session.Machine

/-!
# Where a sequence stops

A sequence returns only what its last run returns, and only after all before it have returned. An
act that begins with a run leaves the state as it was if that run does not return.
-/

namespace RuntimeContracts

variable {σ ε α β : Type}

theorem Run.exists_of_bind_returned {run : Run ε α} {next : α → Run ε β} {b : β}
    (h : (run >>= next).outcome = .returned b) :
    ∃ a, run.outcome = .returned a ∧ (next a).outcome = .returned b := by
  cases ho : run.outcome with
  | returned a =>
    rw [bind_of_returned ho] at h
    exact ⟨a, rfl, h⟩
  | refused e =>
    rw [bind_of_refused ho] at h
    cases h
  | panicked text =>
    rw [bind_of_panicked ho] at h
    cases h
  | aborted text =>
    rw [bind_of_aborted ho] at h
    cases h

/-- An act that begins with a run either goes on with what the run returns, or stops there. -/
theorem Act.lift_bind_ends (run : Run ε α) (next : α → Act σ ε β) (s : σ) :
    (∃ a, run.outcome = .returned a ∧
        (lift run >>= next) s = ((next a s).1, (next a s).2.after run.trace)) ∨
      ((∀ a, run.outcome ≠ .returned a) ∧ ((lift run >>= next) s).1 = s ∧
        ∀ b, ((lift run >>= next) s).2.outcome ≠ .returned b) := by
  cases ho : run.outcome with
  | returned a => exact .inl ⟨a, rfl, lift_bind_of_returned ho next s⟩
  | refused e =>
    rw [lift_bind_of_refused ho]
    exact .inr ⟨nofun, rfl, nofun⟩
  | panicked text =>
    rw [lift_bind_of_panicked ho]
    exact .inr ⟨nofun, rfl, nofun⟩
  | aborted text =>
    have hact : (lift run s).2.outcome = .aborted text := ho
    rw [bind_apply_of_aborted hact]
    exact .inr ⟨nofun, rfl, nofun⟩

/-- An act that stops in the run that it begins with leaves the state and the trace of that run. -/
theorem Act.lift_bind_of_not_returned {run : Run ε α} (h : ∀ a, run.outcome ≠ .returned a)
    (next : α → Act σ ε β) (s : σ) :
    ((lift run >>= next) s).1 = s ∧ ((lift run >>= next) s).2.trace = run.trace := by
  cases ho : run.outcome with
  | returned a => exact absurd ho (h a)
  | refused e =>
    rw [lift_bind_of_refused ho]
    exact ⟨rfl, rfl⟩
  | panicked text =>
    rw [lift_bind_of_panicked ho]
    exact ⟨rfl, rfl⟩
  | aborted text =>
    have hact : (lift run s).2.outcome = .aborted text := ho
    rw [bind_apply_of_aborted hact]
    exact ⟨rfl, rfl⟩

def Outcome.value? : Outcome ε α → Option α
  | .returned a => some a
  | _ => none

/-- An act that puts the object which a run returns in the place of the one that was there, if the
run returns one. -/
theorem Act.lift_bind_set (run : Run ε α) (reply : β) (object? : Option α) :
    (lift run >>= fun a => set (some a) >>= fun _ => pure reply) object? =
      (run.outcome.value?.or object?, ⟨run.trace, run.outcome.map fun _ => reply⟩) := by
  cases ho : run.outcome with
  | returned a =>
    rw [lift_bind_of_returned ho]
    simp [Outcome.value?, Outcome.map, Run.after]
  | refused e =>
    rw [lift_bind_of_refused ho]
    rfl
  | panicked text =>
    rw [lift_bind_of_panicked ho]
    rfl
  | aborted text =>
    have hact : (lift run object?).2.outcome = .aborted text := ho
    rw [bind_apply_of_aborted hact]
    rfl

/-- The same where the object must be there first. -/
theorem withObject_lift_set {τ : Type} (write : τ → Run ε τ) (reply : β) (object : τ) :
    (withObject fun object => do
        let written ← Act.lift (write object)
        Act.set (some written)
        return reply : Act (Option τ) ε (Option β)) (some object) =
      ((write object).outcome.value?.or (some object),
        ⟨(write object).trace, (write object).outcome.map fun _ => some reply⟩) := by
  have hact : (withObject fun object => do
        let written ← Act.lift (write object)
        Act.set (some written)
        return reply : Act (Option τ) ε (Option β)) (some object) =
      ((Act.lift (write object) >>= fun written =>
        Act.set (some written) >>= fun _ => pure reply) >>= fun a => pure (some a))
          (some object) := rfl
  rw [hact, Act.bind_pure_apply, Act.lift_bind_set]
  cases (write object).outcome <;> rfl

end RuntimeContracts

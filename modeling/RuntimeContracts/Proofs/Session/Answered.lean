import RuntimeContracts.Session.Machine

/-!
# What a session answered

The answered requests of a session, with their answers. Those that were refused or interrupted are
left out, so the answered ones tell what the session achieved.
-/

namespace RuntimeContracts

namespace Session

variable {σ ρ ε α : Type}

def answered (step : ρ → Act σ ε α) : σ → List ρ → List (ρ × α)
  | _, [] => []
  | s, request :: rest =>
    match (step request s).2.outcome with
    | .returned a => (request, a) :: answered step (step request s).1 rest
    | _ => answered step (step request s).1 rest

variable {step : ρ → Act σ ε α}

@[simp] theorem answered_nil (s : σ) : answered step s [] = [] := rfl

theorem answered_cons_of_returned {s : σ} {request : ρ} {a : α}
    (h : (step request s).2.outcome = .returned a) (rest : List ρ) :
    answered step s (request :: rest) =
      (request, a) :: answered step (step request s).1 rest := by
  rw [answered, h]

theorem answered_cons_of_not_returned {s : σ} {request : ρ}
    (h : ∀ a, (step request s).2.outcome ≠ .returned a) (rest : List ρ) :
    answered step s (request :: rest) = answered step (step request s).1 rest := by
  rw [answered]
  split
  · next a ha => exact absurd ha (h a)
  · rfl

/-- What holds of nothing answered, and is kept by every request of a kind together with its answer,
holds of what a session of such requests has answered and of the state after it. -/
theorem answered_induction_of_forall {P : ρ → Prop} {motive : List (ρ × α) → σ → Prop}
    (hreturned : ∀ done s request a, P request → motive done s →
      (step request s).2.outcome = .returned a →
        motive (done ++ [(request, a)]) (step request s).1)
    (hother : ∀ done s request, P request → motive done s →
      (∀ a, (step request s).2.outcome ≠ .returned a) → motive done (step request s).1)
    {s : σ} (hs : motive [] s) {requests : List ρ} (hP : ∀ request ∈ requests, P request) :
    motive (answered step s requests) (finalState step s requests) := by
  -- The induction is on the requests to come, behind whatever was answered before them.
  suffices hrun : ∀ done s, motive done s →
      motive (done ++ answered step s requests) (finalState step s requests) from hrun [] s hs
  induction requests with
  | nil =>
    intro done s hdone
    simpa using hdone
  | cons request rest ih =>
    intro done s hdone
    have hrequest : P request := hP request List.mem_cons_self
    have hrest := ih fun other hmem => hP other (List.mem_cons_of_mem request hmem)
    by_cases h : ∃ a, (step request s).2.outcome = .returned a
    · obtain ⟨a, ha⟩ := h
      have hnext := hrest _ _ (hreturned done s request a hrequest hdone ha)
      rw [answered_cons_of_returned ha, finalState_cons]
      simpa using hnext
    · have hnone : ∀ a, (step request s).2.outcome ≠ .returned a := not_exists.1 h
      have hnext := hrest _ _ (hother done s request hrequest hdone hnone)
      rw [answered_cons_of_not_returned hnone, finalState_cons]
      exact hnext

/-- The same for requests of every kind. -/
theorem answered_induction {motive : List (ρ × α) → σ → Prop}
    (hreturned : ∀ done s request a, motive done s → (step request s).2.outcome = .returned a →
      motive (done ++ [(request, a)]) (step request s).1)
    (hother : ∀ done s request, motive done s →
      (∀ a, (step request s).2.outcome ≠ .returned a) → motive done (step request s).1)
    {s : σ} (hs : motive [] s) (requests : List ρ) :
    motive (answered step s requests) (finalState step s requests) :=
  answered_induction_of_forall (P := fun _ => True)
    (fun done s request a _ => hreturned done s request a)
    (fun done s request _ => hother done s request) hs fun _ _ => trivial

end Session

namespace Machine

variable {σ ρ ε α : Type} [Diagnosis ε]

/-- There is nothing to enforce in an attempt that answers. -/
theorem step_of_returned (machine : Machine σ ρ ε α) (mode : FailureMode) {request : ρ} {s s' : σ}
    {trace : Trace} {a : Option α} (h : machine.attempt request s = (s', ⟨trace, .returned a⟩)) :
    machine.step mode request s = (s', ⟨trace, .returned a⟩) := by
  rw [machine.step_eq_attempt mode (by simp [h]), h]

/-- Enforcing a violation never turns it into an answer. -/
theorem step_returned_iff (machine : Machine σ ρ ε α) (mode : FailureMode) (request : ρ) (s : σ)
    (a : Option α) : (machine.step mode request s).2.outcome = .returned a ↔
      (machine.attempt request s).2.outcome = .returned a := by
  cases ho : (machine.attempt request s).2.outcome with
  | refused e =>
    refine iff_of_false ?_ (by simp)
    unfold step
    rw [Act.inForm_snd]
    cases machine.form request with
    | checked =>
      rw [Run.inForm, ho]
      simp
    | failFast =>
      rw [Run.inForm, Run.enforce_of_refused mode ho]
      cases mode <;> simp [FailureMode.stop]
  | returned b | panicked text | aborted text =>
    rw [machine.step_eq_attempt mode (by simp [ho]), ho]

end Machine
end RuntimeContracts

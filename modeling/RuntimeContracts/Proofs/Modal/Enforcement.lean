import RuntimeContracts.Modal.Session
import RuntimeContracts.Proofs.Modal.Access

/-!
# Enforcement of active conditions

Whatever happened to a modal value, its active conditions pass on the value that it stores. A read
therefore fails only where a discard predicate panics.
-/

namespace RuntimeContracts.Modal

variable {V : Type}

def Enforced (modal : Modal V) : Prop := ∀ c ∈ modal.active, c.Passes modal.value

theorem enforced_new (value : V) (conditions : List (Condition V)) :
    (Modal.new value conditions).Enforced := by
  intro c hmem
  cases hmem

theorem enforced_attach {modal : Modal V} (h : modal.Enforced) (condition : Condition V) :
    (modal.attach condition).Enforced := h

/-- What an interrupted release leaves active was active before it. -/
theorem enforced_of_interrupted {modal : Modal V} (h : modal.Enforced) {v : V}
    {earlier rest : List (Condition V)} {c : Condition V}
    (hsplit : modal.active = earlier ++ c :: rest) :
    Enforced { modal with
      active := (earlier.filter fun b : Condition V => ¬ b.Retires v) ++ c :: rest } := by
  intro b hmem
  apply h b
  rw [hsplit]
  rcases List.mem_append.1 hmem with hb | hb
  · exact List.mem_append_left _ (List.mem_filter.1 hb).1
  · exact List.mem_append_right _ hb

variable [Describe V]

theorem WriteEnd.enforced {modal final : Modal V} {v : V} {outcome : Outcome Violation Unit}
    (hends : WriteEnd modal v final outcome) (h : modal.Enforced) : final.Enforced := by
  cases hends with
  | committed hactive hpending =>
    intro c hmem
    rcases List.mem_append.1 hmem with hkept | hnew
    · exact hactive c (List.mem_filter.1 hkept).1
    · -- The second answer of a trigger is its first one, and that had the condition checked.
      obtain ⟨hbound, ht⟩ := List.mem_filter.1 hnew
      exact hpending c hbound (of_decide_eq_true ht)
  | refused hbound hfails => exact h
  | interruptedCheck text => exact h
  | interruptedRelease hsplit hpanics => exact enforced_of_interrupted h hsplit

theorem enforced_write {modal : Modal V} (h : modal.Enforced) (v : V) :
    (write v modal).1.Enforced := (write_ends modal v).enforced h

theorem ReadEnd.enforced {modal final : Modal V} {outcome : Outcome Violation V}
    (hends : ReadEnd modal final outcome) (h : modal.Enforced) : final.Enforced := by
  cases hends with
  | answered hactive =>
    intro c hmem
    exact hactive c (List.mem_filter.1 hmem).1
  | interruptedRelease hsplit hpanics => exact enforced_of_interrupted h hsplit
  | refused hbound hfails => exact h
  | interruptedCheck text hactive => exact h

theorem enforced_read {modal : Modal V} (h : modal.Enforced) : (read modal).1.Enforced :=
  (read_ends modal).enforced h

/-- An enforced value leaves a read only two ways to end. -/
theorem ReadEnd.outcome_of_enforced {modal final : Modal V} {outcome : Outcome Violation V}
    (hends : ReadEnd modal final outcome) (h : modal.Enforced) :
    outcome = .returned modal.value ∨
      ∃ c ∈ modal.active, ∃ text, c.DiscardPanicsWith modal.value text ∧
        outcome = .panicked text := by
  cases hends with
  | answered hactive => exact .inl rfl
  | @interruptedRelease earlier rest c text hsplit hpanics =>
    have hmem : c ∈ modal.active := by
      rw [hsplit]
      simp
    exact .inr ⟨c, hmem, text, hpanics, rfl⟩
  | @refused c reason hbound hfails =>
    exact absurd (h c hbound) (Condition.not_passes_of_failsWith hfails)
  | interruptedCheck text hactive => exact absurd h hactive

/-- One request keeps a modal value, and keeps it enforced. -/
theorem enforced_attempt (request : Request V) {modal : Modal V} (h : modal.Enforced) :
    ∃ final, (attempt request (some modal)).1 = some final ∧ final.Enforced := by
  cases request with
  | new value conditions => exact ⟨_, rfl, enforced_new value conditions⟩
  | write form v => exact ⟨_, by rw [attempt_write_some], enforced_write h v⟩
  | read form => exact ⟨_, by rw [attempt_read_some], enforced_read h⟩
  | attach condition => exact ⟨_, rfl, enforced_attach h condition⟩
  | showDebug pretty => exact ⟨modal, rfl, h⟩
  | describeCondition condition pretty => exact ⟨modal, rfl, h⟩

theorem attempt_read_of_enforced {modal : Modal V} (h : modal.Enforced) (form : Form) :
    (attempt (.read form) (some modal)).2.outcome = .returned (some (.value modal.value)) ∨
      ∃ c ∈ modal.active, ∃ text, c.DiscardPanicsWith modal.value text ∧
        (attempt (.read form) (some modal)).2.outcome = .panicked text := by
  rw [attempt_read_some]
  rcases (read_ends modal).outcome_of_enforced h with ho | ⟨c, hmem, text, hpanics, ho⟩
  · exact .inl (by rw [ho]; rfl)
  · exact .inr ⟨c, hmem, text, hpanics, by rw [ho]; rfl⟩

/-- After any requests, in any forms and however they ended, the active conditions pass on the
stored value. A read then does the same in both forms: it answers the stored value, unless a discard
predicate panics on it. -/
theorem finalState_enforced (mode : FailureMode) (value : V) (conditions : List (Condition V))
    (requests : List (Request V)) :
    ∃ modal, Session.finalState (machine.step mode) (some (Modal.new value conditions)) requests =
        some modal ∧ modal.Enforced ∧
      ∀ form, machine.step mode (.read form) (some modal) =
          machine.attempt (.read form) (some modal) ∧
        ((machine.attempt (.read form) (some modal)).2.outcome =
            .returned (some (.value modal.value)) ∨
          ∃ c ∈ modal.active, ∃ text, c.DiscardPanicsWith modal.value text ∧
            (machine.attempt (.read form) (some modal)).2.outcome = .panicked text) := by
  obtain ⟨modal, hfinal, henforced⟩ : ∃ modal, Session.finalState (machine.step mode)
      (some (Modal.new value conditions)) requests = some modal ∧ modal.Enforced := by
    refine Session.finalState_induction (motive := fun s => ∃ modal : Modal V, s = some modal ∧
      modal.Enforced) ?_ ⟨_, rfl, enforced_new value conditions⟩ requests
    rintro request s ⟨modal, rfl, h⟩
    exact enforced_attempt request h
  refine ⟨modal, hfinal, henforced, fun form => ?_⟩
  have hread := attempt_read_of_enforced henforced form
  refine ⟨machine.step_eq_attempt mode fun e he => ?_, hread⟩
  -- Neither way to end is a refusal, so there is nothing that the fail-fast form enforces.
  rcases hread with hanswered | ⟨c, hmem, text, hpanics, hpanicked⟩
  · cases hanswered.symm.trans he
  · cases hpanicked.symm.trans he

end RuntimeContracts.Modal

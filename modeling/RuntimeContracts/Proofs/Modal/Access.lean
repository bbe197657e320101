import RuntimeContracts.Modal.Basic
import RuntimeContracts.Proofs.Predicate.Verdict

/-!
# How accesses to a modal value end

Each part of an access has one statement on how it ends: the checks, the release of active
conditions and the activation of pending ones. `write_ends` and `read_ends` put them together; they
say everything that an access can do to a modal value.
-/

namespace RuntimeContracts

namespace Condition

variable {V ε : Type}

def verdict (v : V) (condition : Condition V) : Client (Option String) :=
  match condition.rule with
  | .requires p => do
    if ← p.verdict v then return none else return some (unsatisfiedReason p)
  | .custom check => check v

def evaluations (v : V) (condition : Condition V) : Trace :=
  match condition.rule with
  | .requires p => p.tests v
  | .custom _ => [.checked condition.description]

def Passes (condition : Condition V) (v : V) : Prop :=
  (condition.check v : Run Empty (Option String)).outcome = .returned none

def FailsWith (condition : Condition V) (v : V) (reason : String) : Prop :=
  (condition.check v : Run Empty (Option String)).outcome = .returned (some reason)

def Retires (condition : Condition V) (v : V) : Prop :=
  (condition.discards v : Run Empty Bool).outcome = .returned true

instance (condition : Condition V) (v : V) : Decidable (condition.Passes v) :=
  inferInstanceAs (Decidable (_ = _))

instance (condition : Condition V) (v : V) : Decidable (condition.Retires v) :=
  inferInstanceAs (Decidable (_ = _))

theorem check_eq (condition : Condition V) (v : V) : (condition.check v : Run ε (Option String)) =
    (Run.call (condition.verdict v)).after (condition.evaluations v) := by
  unfold check verdict evaluations
  cases condition.rule with
  | requires p =>
    simp only [Predicate.eval_eq, Run.after_bind]
    cases hp : p.verdict v with
    | error text => rfl
    | ok b => cases b <;> rfl
  | custom check => rfl

theorem passes_iff {condition : Condition V} {v : V} :
    condition.Passes v ↔ condition.verdict v = .ok none := by
  simp [Passes, check_eq]

theorem failsWith_iff {condition : Condition V} {v : V} {reason : String} :
    condition.FailsWith v reason ↔ condition.verdict v = .ok (some reason) := by
  simp [FailsWith, check_eq]

theorem not_passes_of_failsWith {condition : Condition V} {v : V} {reason : String}
    (h : condition.FailsWith v reason) : ¬ condition.Passes v := by
  intro hpasses
  rw [passes_iff, failsWith_iff.1 h] at hpasses
  cases hpasses

theorem demand_eq [Describe V] (condition : Condition V) (v : V) :
    condition.demand v = ⟨condition.evaluations v,
      match condition.verdict v with
      | .error text => .panicked text
      | .ok none => .returned ()
      | .ok (some reason) =>
        .refused (.conditionViolated condition.description (describe v) reason)⟩ := by
  unfold demand
  rw [check_eq, Run.after_bind]
  match condition.verdict v with
  | .error text => ext1 <;> simp
  | .ok none => ext1 <;> simp
  | .ok (some reason) => ext1 <;> simp

theorem demand_returned_iff [Describe V] {condition : Condition V} {v : V} :
    (condition.demand v).outcome = .returned () ↔ condition.Passes v := by
  rw [demand_eq, passes_iff]
  match condition.verdict v with
  | .error text => simp
  | .ok none => simp
  | .ok (some reason) => simp

def violation [Describe V] (condition : Condition V) (v : V) (reason : String) : Violation :=
  .conditionViolated condition.description (describe v) reason

theorem demand_ends [Describe V] {condition : Condition V} {v : V} (h : ¬ condition.Passes v) :
    (∃ reason, condition.FailsWith v reason ∧
        (condition.demand v).outcome = .refused (condition.violation v reason)) ∨
      ∃ text, (condition.demand v).outcome = .panicked text := by
  rw [passes_iff] at h
  rw [demand_eq]
  match hc : condition.verdict v with
  | .error text => exact .inr ⟨text, rfl⟩
  | .ok none => exact absurd hc h
  | .ok (some reason) => exact .inl ⟨reason, failsWith_iff.2 hc, rfl⟩

def demandTriggered [Describe V] (v : V) (condition : Condition V) : Run Violation Unit := do
  if ← condition.trigger.eval v then condition.demand v

theorem demandTriggered_ends [Describe V] (condition : Condition V) (v : V) :
    (condition.trigger.Holds v ∧ condition.Passes v ∧
        (condition.demandTriggered v).outcome = .returned ()) ∨
      (condition.trigger.Fails v ∧ (condition.demandTriggered v).outcome = .returned ()) ∨
      (condition.trigger.Holds v ∧ ∃ reason, condition.FailsWith v reason ∧
        (condition.demandTriggered v).outcome = .refused (condition.violation v reason)) ∨
      ∃ text, (condition.demandTriggered v).outcome = .panicked text := by
  unfold demandTriggered
  simp only [Predicate.eval_eq, Run.after_bind, Predicate.holds_iff, Predicate.fails_iff]
  match condition.trigger.verdict v with
  | .error text => exact .inr (.inr (.inr ⟨text, rfl⟩))
  | .ok false => exact .inr (.inl ⟨rfl, rfl⟩)
  | .ok true =>
    by_cases hc : condition.Passes v
    · exact .inl ⟨rfl, hc, demand_returned_iff.2 hc⟩
    · rcases demand_ends hc with hrefused | hpanicked
      · exact .inr (.inr (.inl ⟨rfl, hrefused⟩))
      · exact .inr (.inr (.inr hpanicked))

def DiscardPanicsWith (condition : Condition V) (v : V) (text : String) : Prop :=
  ∃ p, condition.discard = some p ∧ p.PanicsWith v text

theorem discards_ends (condition : Condition V) (v : V) :
    (condition.Retires v ∧ (condition.discards v : Run ε Bool).outcome = .returned true) ∨
      (¬ condition.Retires v ∧ (condition.discards v : Run ε Bool).outcome = .returned false) ∨
      ∃ text, condition.DiscardPanicsWith v text ∧
        (condition.discards v : Run ε Bool).outcome = .panicked text := by
  unfold DiscardPanicsWith Retires discards
  cases condition.discard with
  | none => exact .inr (.inl ⟨by simp, rfl⟩)
  | some p =>
    simp only [Predicate.eval_eq, Predicate.panicsWith_iff]
    cases hp : p.verdict v with
    | error text => exact .inr (.inr ⟨text, ⟨p, rfl, hp⟩, rfl⟩)
    | ok b => cases b <;> simp

end Condition

namespace Modal

variable {V ε : Type} [Describe V]

theorem checkAll_eq_each (v : V) (conditions : List (Condition V)) :
    checkAll v conditions = Run.each (fun c => c.demand v) conditions := by
  induction conditions with
  | nil => rfl
  | cons condition rest ih => rw [checkAll, Run.each, ih]

theorem checkTriggered_eq_each (v : V) (conditions : List (Condition V)) :
    checkTriggered v conditions = Run.each (fun c => c.demandTriggered v) conditions := by
  induction conditions with
  | nil => rfl
  | cons condition rest ih =>
    rw [checkTriggered, Run.each, ih, Condition.demandTriggered, bind_assoc]
    congr 1
    funext b
    cases b <;> simp

theorem checkAll_returned_iff {v : V} {conditions : List (Condition V)} :
    (checkAll v conditions).outcome = .returned () ↔ ∀ c ∈ conditions, c.Passes v := by
  simp only [checkAll_eq_each, Run.each_returned_iff, Condition.demand_returned_iff]

theorem checkAll_ends {v : V} {conditions : List (Condition V)}
    (h : (checkAll v conditions).outcome ≠ .returned ()) :
    (∃ c ∈ conditions, ∃ reason, c.FailsWith v reason ∧
        (checkAll v conditions).outcome = .refused (c.violation v reason)) ∨
      ∃ text, (checkAll v conditions).outcome = .panicked text := by
  rw [checkAll_eq_each] at *
  obtain ⟨c, hmem, hc, ho⟩ := Run.exists_outcome_each h
  rw [ho]
  rcases Condition.demand_ends (mt Condition.demand_returned_iff.2 hc) with
    ⟨reason, hfails, hr⟩ | hpanics
  · exact .inl ⟨c, hmem, reason, hfails, hr⟩
  · exact .inr hpanics

/-- Once the pending conditions are checked, every trigger has answered. -/
theorem checkTriggered_of_returned {v : V} {conditions : List (Condition V)}
    (h : (checkTriggered v conditions).outcome = .returned ()) {c : Condition V}
    (hmem : c ∈ conditions) : c.trigger.Holds v ∧ c.Passes v ∨ c.trigger.Fails v := by
  rw [checkTriggered_eq_each, Run.each_returned_iff] at h
  have hc := h c hmem
  rcases c.demandTriggered_ends v with
    ⟨ht, hp, _⟩ | ⟨ht, _⟩ | ⟨_, reason, _, ho⟩ | ⟨text, ho⟩
  · exact .inl ⟨ht, hp⟩
  · exact .inr ht
  · rw [ho] at hc
    cases hc
  · rw [ho] at hc
    cases hc

theorem checkTriggered_ends {v : V} {conditions : List (Condition V)}
    (h : (checkTriggered v conditions).outcome ≠ .returned ()) :
    (∃ c ∈ conditions, c.trigger.Holds v ∧ ∃ reason, c.FailsWith v reason ∧
        (checkTriggered v conditions).outcome = .refused (c.violation v reason)) ∨
      ∃ text, (checkTriggered v conditions).outcome = .panicked text := by
  rw [checkTriggered_eq_each] at *
  obtain ⟨c, hmem, hc, ho⟩ := Run.exists_outcome_each h
  rw [ho]
  rcases c.demandTriggered_ends v with
    ⟨_, _, hr⟩ | ⟨_, hr⟩ | hrefused | hpanicked
  · exact absurd hr hc
  · exact absurd hr hc
  · exact .inl ⟨c, hmem, hrefused⟩
  · exact .inr hpanicked

/-! ## Releasing and activating -/

/-- A release drops what the value discards. Where a discard predicate panics, its condition and all
behind it stay. -/
theorem sweep_ends (v : V) (conditions : List (Condition V)) :
    ((sweep v conditions : _ × Run ε Unit).2.outcome = .returned () ∧
        (sweep v conditions : _ × Run ε Unit).1 =
          conditions.filter fun c => ¬ c.Retires v) ∨
      ∃ earlier c rest text, conditions = earlier ++ c :: rest ∧ c.DiscardPanicsWith v text ∧
        (sweep v conditions : _ × Run ε Unit).2.outcome = .panicked text ∧
        (sweep v conditions : _ × Run ε Unit).1 =
          (earlier.filter fun c => ¬ c.Retires v) ++ c :: rest := by
  induction conditions with
  | nil => exact .inl ⟨rfl, rfl⟩
  | cons condition others ih =>
    rcases condition.discards_ends (ε := ε) v with ⟨hr, ho⟩ | ⟨hr, ho⟩ | ⟨text, hp, ho⟩
    · rcases ih with ⟨ht, hk⟩ | ⟨earlier, c, rest, text, rfl, hp, ht, hk⟩
      · exact .inl (by simp [sweep, ho, ht, hk, hr])
      · exact .inr ⟨condition :: earlier, c, rest, text, rfl, hp, by simp [sweep, ho, ht],
          by simp [sweep, ho, hk, hr]⟩
    · rcases ih with ⟨ht, hk⟩ | ⟨earlier, c, rest, text, rfl, hp, ht, hk⟩
      · exact .inl (by simp [sweep, ho, ht, hk, hr])
      · exact .inr ⟨condition :: earlier, c, rest, text, rfl, hp, by simp [sweep, ho, ht],
          by simp [sweep, ho, hk, hr]⟩
    · exact .inr ⟨[], condition, others, text, rfl, hp, by simp [sweep, ho], by simp [sweep, ho]⟩

theorem sweepActive_ends (v : V) (modal : Modal V) :
    ((sweepActive v modal : _ × Run ε Unit).2.outcome = .returned () ∧
        (sweepActive v modal : _ × Run ε Unit).1 =
          { modal with active := modal.active.filter fun c => ¬ c.Retires v }) ∨
      ∃ earlier c rest text, modal.active = earlier ++ c :: rest ∧ c.DiscardPanicsWith v text ∧
        (sweepActive v modal : _ × Run ε Unit).2.outcome = .panicked text ∧
        (sweepActive v modal : _ × Run ε Unit).1 =
          { modal with active := (earlier.filter fun c => ¬ c.Retires v) ++ c :: rest } := by
  rcases sweep_ends (ε := ε) v modal.active with
    ⟨ho, hk⟩ | ⟨earlier, c, rest, text, hsplit, hp, ho, hk⟩
  · exact .inl ⟨ho, by rw [← hk]; rfl⟩
  · exact .inr ⟨earlier, c, rest, text, hsplit, hp, ho, by rw [← hk]; rfl⟩

theorem activate_ends {v : V} {conditions : List (Condition V)}
    (h : ∀ c ∈ conditions, c.trigger.Holds v ∨ c.trigger.Fails v) (modal : Modal V) :
    (activate v conditions modal : _ × Run ε Unit).2.outcome = .returned () ∧
      (activate v conditions modal : _ × Run ε Unit).1 =
        { modal with
          pending := modal.pending ++ conditions.filter fun c => ¬ c.trigger.Holds v
          active := modal.active ++ conditions.filter fun c => c.trigger.Holds v } := by
  induction conditions generalizing modal with
  | nil => exact ⟨rfl, by simp [activate]⟩
  | cons condition rest ih =>
    have hrest := ih (fun c hmem => h c (by simp [hmem]))
    rcases h condition (by simp) with ht | ht
    · have ho : (Act.lift (condition.trigger.eval v) modal : _ × Run ε Bool).2.outcome =
          .returned true := by simpa [Predicate.eval_eq] using Predicate.holds_iff.1 ht
      rw [activate, Act.bind_apply_of_returned ho]
      simp [Run.report, hrest, ht]
    · have ho : (Act.lift (condition.trigger.eval v) modal : _ × Run ε Bool).2.outcome =
          .returned false := by simpa [Predicate.eval_eq] using Predicate.fails_iff.1 ht
      have hn := Predicate.not_holds_of_fails ht
      rw [activate, Act.bind_apply_of_returned ho]
      simp [hrest, hn]

theorem activatePending_ends (modal : Modal V) {v : V}
    (h : ∀ c ∈ modal.pending, c.trigger.Holds v ∨ c.trigger.Fails v) :
    (activatePending v modal : _ × Run ε Unit).2.outcome = .returned () ∧
      (activatePending v modal : _ × Run ε Unit).1 =
        { modal with
          pending := modal.pending.filter fun c => ¬ c.trigger.Holds v
          active := modal.active ++ modal.pending.filter fun c => c.trigger.Holds v } := by
  unfold activatePending
  rw [Act.get_bind, Act.set_bind]
  simpa using activate_ends (ε := ε) h { modal with pending := [] }

inductive WriteEnd (modal : Modal V) (v : V) : Modal V → Outcome Violation Unit → Prop where
  | committed (hactive : ∀ c ∈ modal.active, c.Passes v)
      (hpending : ∀ c ∈ modal.pending, c.trigger.Holds v → c.Passes v) :
      WriteEnd modal v
        { value := v
          pending := modal.pending.filter fun c => ¬ c.trigger.Holds v
          active := (modal.active.filter fun c => ¬ c.Retires v) ++
            modal.pending.filter fun c => c.trigger.Holds v }
        (.returned ())
  | refused {c : Condition V} {reason : String}
      (hbound : c ∈ modal.active ∨ c ∈ modal.pending ∧ c.trigger.Holds v)
      (hfails : c.FailsWith v reason) :
      WriteEnd modal v modal (.refused (c.violation v reason))
  | interruptedCheck (text : String) : WriteEnd modal v modal (.panicked text)
  | interruptedRelease {earlier rest : List (Condition V)} {c : Condition V} {text : String}
      (hsplit : modal.active = earlier ++ c :: rest) (hpanics : c.DiscardPanicsWith v text) :
      WriteEnd modal v
        { modal with active := (earlier.filter fun c => ¬ c.Retires v) ++ c :: rest }
        (.panicked text)

theorem write_ends (modal : Modal V) (v : V) :
    WriteEnd modal v (write v modal).1 (write v modal).2.outcome := by
  unfold write
  rw [Act.get_bind]
  by_cases hactive : (checkAll v modal.active).outcome = .returned ()
  · rw [Act.lift_bind_of_returned hactive]
    by_cases hpending : (checkTriggered v modal.pending).outcome = .returned ()
    · rw [Act.lift_bind_of_returned hpending]
      have htriggered := fun c => checkTriggered_of_returned hpending (c := c)
      rcases sweepActive_ends (ε := Violation) v modal with
        ⟨ho, hs⟩ | ⟨earlier, c, rest, text, hsplit, hp, ho, hs⟩
      · obtain ⟨hao, has⟩ := activatePending_ends (ε := Violation)
          { modal with active := modal.active.filter fun c => ¬ c.Retires v }
          (fun c hmem => (htriggered c hmem).imp And.left id)
        rw [Act.bind_apply_of_returned ho, hs, Act.bind_apply_of_returned hao, has]
        refine .committed (checkAll_returned_iff.1 hactive) fun c hmem ht => ?_
        rcases htriggered c hmem with ⟨_, hpasses⟩ | hfails
        · exact hpasses
        · exact absurd ht (Predicate.not_holds_of_fails hfails)
      · rw [Act.bind_apply_of_panicked ho, hs]
        exact .interruptedRelease hsplit hp
    · rcases checkTriggered_ends hpending with
        ⟨c, hmem, ht, reason, hfails, ho⟩ | ⟨text, ho⟩
      · rw [Act.lift_bind_of_refused ho]
        exact .refused (.inr ⟨hmem, ht⟩) hfails
      · rw [Act.lift_bind_of_panicked ho]
        exact .interruptedCheck text
  · rcases checkAll_ends hactive with ⟨c, hmem, reason, hfails, ho⟩ | ⟨text, ho⟩
    · rw [Act.lift_bind_of_refused ho]
      exact .refused (.inl hmem) hfails
    · rw [Act.lift_bind_of_panicked ho]
      exact .interruptedCheck text

/-- Everything that a read can do. It refuses or panics in a check only where an active condition
does not pass. -/
inductive ReadEnd (modal : Modal V) : Modal V → Outcome Violation V → Prop where
  | answered (hactive : ∀ c ∈ modal.active, c.Passes modal.value) :
      ReadEnd modal { modal with active := modal.active.filter fun c => ¬ c.Retires modal.value }
        (.returned modal.value)
  | interruptedRelease {earlier rest : List (Condition V)} {c : Condition V} {text : String}
      (hsplit : modal.active = earlier ++ c :: rest)
      (hpanics : c.DiscardPanicsWith modal.value text) :
      ReadEnd modal
        { modal with active := (earlier.filter fun c => ¬ c.Retires modal.value) ++ c :: rest }
        (.panicked text)
  | refused {c : Condition V} {reason : String} (hbound : c ∈ modal.active)
      (hfails : c.FailsWith modal.value reason) :
      ReadEnd modal modal (.refused (c.violation modal.value reason))
  | interruptedCheck (text : String) (hactive : ¬ ∀ c ∈ modal.active, c.Passes modal.value) :
      ReadEnd modal modal (.panicked text)

theorem read_ends (modal : Modal V) : ReadEnd modal (read modal).1 (read modal).2.outcome := by
  unfold read
  rw [Act.get_bind]
  by_cases hactive : (checkAll modal.value modal.active).outcome = .returned ()
  · rw [Act.lift_bind_of_returned hactive]
    rcases sweepActive_ends (ε := Violation) modal.value modal with
      ⟨ho, hs⟩ | ⟨earlier, c, rest, text, hsplit, hp, ho, hs⟩
    · rw [Act.bind_apply_of_returned ho, hs]
      exact .answered (checkAll_returned_iff.1 hactive)
    · rw [Act.bind_apply_of_panicked ho, hs]
      exact .interruptedRelease hsplit hp
  · rcases checkAll_ends hactive with ⟨c, hmem, reason, hfails, ho⟩ | ⟨text, ho⟩
    · rw [Act.lift_bind_of_refused ho]
      exact .refused hmem hfails
    · rw [Act.lift_bind_of_panicked ho]
      exact .interruptedCheck text (mt checkAll_returned_iff.2 hactive)

end Modal
end RuntimeContracts

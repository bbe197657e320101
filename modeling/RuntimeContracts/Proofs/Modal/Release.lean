import RuntimeContracts.Proofs.Modal.Access
import RuntimeContracts.Proofs.Run.Stopping

/-!
# The release of active conditions

Every access checks, releases the active conditions that its value discards, and goes on, which is
the pattern `accessing`. The checks may stop it before anything has changed, and a discard predicate
may interrupt the release. Each of the three ways has one equation, for the modal value and the
trace.
-/

namespace RuntimeContracts

/-- An act that begins with a sequence of runs begins with the first of them. -/
theorem Act.lift_bind {σ ε α β : Type} (run : Run ε α) (next : α → Run ε β) :
    (lift (run >>= next) : Act σ ε β) = lift run >>= fun a => lift (next a) := by
  funext s
  cases ho : run.outcome with
  | returned a =>
    rw [lift_bind_of_returned ho, lift_apply, lift_apply, Run.bind_of_returned ho]
  | refused e => rw [lift_bind_of_refused ho, lift_apply, Run.bind_of_refused ho]
  | panicked text => rw [lift_bind_of_panicked ho, lift_apply, Run.bind_of_panicked ho]
  | aborted text =>
    have hact : (lift run s).2.outcome = .aborted text := ho
    rw [bind_apply_of_aborted hact, lift_apply, Run.bind_of_aborted ho]
    rfl

namespace Condition

variable {V ε : Type}

/-- What asking for the discard answers. Nothing discards a condition without a discard
predicate. -/
def discardVerdict (v : V) (condition : Condition V) : Client Bool :=
  match condition.discard with
  | none => .ok false
  | some p => p.verdict v

def discardTests (v : V) (condition : Condition V) : Trace :=
  match condition.discard with
  | none => []
  | some p => p.tests v

theorem discards_eq (condition : Condition V) (v : V) : (condition.discards v : Run ε Bool) =
    (Run.call (condition.discardVerdict v)).after (condition.discardTests v) := by
  unfold discards discardVerdict discardTests
  cases condition.discard with
  | none => rfl
  | some p => exact p.eval_eq v

theorem retires_iff {condition : Condition V} {v : V} :
    condition.Retires v ↔ condition.discardVerdict v = .ok true := by
  simp [Retires, discards_eq]

theorem discardPanicsWith_iff {condition : Condition V} {v : V} {text : String} :
    condition.DiscardPanicsWith v text ↔ condition.discardVerdict v = .error text := by
  unfold DiscardPanicsWith discardVerdict
  cases condition.discard with
  | none => simp
  | some p => simp [Predicate.panicsWith_iff]

def DiscardAnswers (condition : Condition V) (v : V) : Prop :=
  ∀ text, ¬ condition.DiscardPanicsWith v text

theorem discardVerdict_of_answers {condition : Condition V} {v : V}
    (h : condition.DiscardAnswers v) :
    condition.discardVerdict v = .ok (decide (condition.Retires v)) := by
  cases hverdict : condition.discardVerdict v with
  | error text => exact absurd (discardPanicsWith_iff.2 hverdict) (h text)
  | ok answer => cases answer <;> simp [retires_iff, hverdict]

/-- Either every discard predicate answers, or the list splits at the first one that panics. -/
theorem answers_or_first_panic (v : V) (conditions : List (Condition V)) :
    (∀ c ∈ conditions, c.DiscardAnswers v) ∨
      ∃ earlier c rest text, conditions = earlier ++ c :: rest ∧
        (∀ b ∈ earlier, b.DiscardAnswers v) ∧ c.DiscardPanicsWith v text := by
  rcases forall_or_exists_first (fun c : Condition V => c.DiscardAnswers v) conditions with
    hall | ⟨earlier, c, rest, hsplit, hearlier, hc⟩
  · exact .inl hall
  · obtain ⟨text, hpanics⟩ := Classical.not_forall_not.1 hc
    exact .inr ⟨earlier, c, rest, text, hsplit, hearlier, hpanics⟩

variable [Describe V]

def discardReport (v : V) (condition : Condition V) : Entry :=
  .reported (.conditionDiscarded condition.description (describe v))

def releaseTrace (v : V) (condition : Condition V) : Trace :=
  condition.discardTests v ++ if condition.Retires v then [condition.discardReport v] else []

end Condition

namespace Modal

variable {V ε α : Type} [Describe V]

theorem sweep_append {v : V} {earlier : List (Condition V)}
    (h : ∀ c ∈ earlier, c.DiscardAnswers v) (rest : List (Condition V)) :
    (sweep v (earlier ++ rest) : _ × Run ε Unit) =
      ((earlier.filter fun c => ¬ c.Retires v) ++ (sweep v rest : _ × Run ε Unit).1,
        (sweep v rest : _ × Run ε Unit).2.after (earlier.flatMap (Condition.releaseTrace v))) := by
  induction earlier with
  | nil => rfl
  | cons condition others ih =>
    have hverdict := Condition.discardVerdict_of_answers (h condition List.mem_cons_self)
    have hrest := ih fun c hmem => h c (List.mem_cons_of_mem condition hmem)
    by_cases hretires : condition.Retires v
    · simp [sweep, Condition.discards_eq, hverdict, hretires, hrest, Condition.releaseTrace,
        Condition.discardReport]
    · simp [sweep, Condition.discards_eq, hverdict, hretires, hrest, Condition.releaseTrace]

theorem sweep_of_answers {v : V} {conditions : List (Condition V)}
    (h : ∀ c ∈ conditions, c.DiscardAnswers v) : (sweep v conditions : _ × Run ε Unit) =
      (conditions.filter fun c => ¬ c.Retires v,
        ⟨conditions.flatMap (Condition.releaseTrace v), .returned ()⟩) := by
  have happ := sweep_append (ε := ε) h []
  rw [List.append_nil] at happ
  rw [happ]
  simp [sweep, Run.after]

/-- Where a discard predicate panics, its condition and all behind it stay. -/
theorem sweep_of_panic {v : V} {earlier rest : List (Condition V)} {c : Condition V}
    {text : String} (hearlier : ∀ b ∈ earlier, b.DiscardAnswers v)
    (hpanics : c.DiscardPanicsWith v text) :
    (sweep v (earlier ++ c :: rest) : _ × Run ε Unit) =
      ((earlier.filter fun b => ¬ b.Retires v) ++ c :: rest,
        ⟨earlier.flatMap (Condition.releaseTrace v) ++ c.discardTests v, .panicked text⟩) := by
  have hverdict := Condition.discardPanicsWith_iff.1 hpanics
  rw [sweep_append hearlier]
  simp [sweep, Condition.discards_eq, hverdict, Run.after]

theorem sweepActive_apply (v : V) (modal : Modal V) : (sweepActive v modal : _ × Run ε Unit) =
    ({ modal with active := (sweep v modal.active : _ × Run ε Unit).1 },
      (sweep v modal.active).2) := rfl

theorem sweepActive_of_answers {v : V} {modal : Modal V}
    (h : ∀ c ∈ modal.active, c.DiscardAnswers v) : (sweepActive v modal : _ × Run ε Unit) =
      ({ modal with active := modal.active.filter fun c => ¬ c.Retires v },
        ⟨modal.active.flatMap (Condition.releaseTrace v), .returned ()⟩) := by
  rw [sweepActive_apply, sweep_of_answers h]

theorem sweepActive_of_panic {v : V} {modal : Modal V} {earlier rest : List (Condition V)}
    {c : Condition V} {text : String} (hsplit : modal.active = earlier ++ c :: rest)
    (hearlier : ∀ b ∈ earlier, b.DiscardAnswers v) (hpanics : c.DiscardPanicsWith v text) :
    (sweepActive v modal : _ × Run ε Unit) =
      ({ modal with active := (earlier.filter fun b => ¬ b.Retires v) ++ c :: rest },
        ⟨earlier.flatMap (Condition.releaseTrace v) ++ c.discardTests v, .panicked text⟩) := by
  rw [sweepActive_apply, hsplit, sweep_of_panic hearlier hpanics]

/-! ## Accesses -/

/-- An access checks, releases the active conditions that the value discards, and goes on. -/
def accessing (checks : Run Violation Unit) (v : V) (next : Act (Modal V) Violation α) :
    Act (Modal V) Violation α := do
  Act.lift checks
  sweepActive v
  next

def writeChecks (modal : Modal V) (v : V) : Run Violation Unit := do
  checkAll v modal.active
  checkTriggered v modal.pending

/-- What a write does once its release is complete. -/
def settle (v : V) : Act (Modal V) Violation Unit := do
  activatePending v
  Act.modify fun modal => { modal with value := v }

theorem write_eq_accessing (modal : Modal V) (v : V) :
    write v modal = accessing (modal.writeChecks v) v (settle v) modal := by
  rw [write, Act.get_bind, accessing, writeChecks, Act.lift_bind, bind_assoc]
  rfl

theorem read_eq_accessing (modal : Modal V) : read modal =
    accessing (checkAll modal.value modal.active) modal.value (pure modal.value) modal := rfl

section Accessing

variable {checks : Run Violation Unit} {v : V} {next : Act (Modal V) Violation α} {modal : Modal V}

theorem accessing_of_refused {e : Violation} (h : checks.outcome = .refused e) :
    accessing checks v next modal = (modal, ⟨checks.trace, .refused e⟩) :=
  Act.lift_bind_of_refused h _ modal

theorem accessing_of_panicked {text : String} (h : checks.outcome = .panicked text) :
    accessing checks v next modal = (modal, ⟨checks.trace, .panicked text⟩) :=
  Act.lift_bind_of_panicked h _ modal

theorem accessing_of_answers (hchecks : checks.outcome = .returned ())
    (h : ∀ c ∈ modal.active, c.DiscardAnswers v) :
    let rest := next { modal with active := modal.active.filter fun c => ¬ c.Retires v }
    accessing checks v next modal = (rest.1, rest.2.after
      (checks.trace ++ modal.active.flatMap (Condition.releaseTrace v))) := by
  intro rest
  have hsweep := sweepActive_of_answers (ε := Violation) h
  have ho : (sweepActive v modal : _ × Run Violation Unit).2.outcome = .returned () := by
    rw [hsweep]
  rw [accessing, Act.lift_bind_of_returned hchecks, Act.bind_apply_of_returned ho, hsweep]
  simp [rest]

theorem accessing_of_panic {earlier rest : List (Condition V)} {c : Condition V} {text : String}
    (hchecks : checks.outcome = .returned ()) (hsplit : modal.active = earlier ++ c :: rest)
    (hearlier : ∀ b ∈ earlier, b.DiscardAnswers v) (hpanics : c.DiscardPanicsWith v text) :
    accessing checks v next modal =
      ({ modal with active := (earlier.filter fun b => ¬ b.Retires v) ++ c :: rest },
        ⟨checks.trace ++ (earlier.flatMap (Condition.releaseTrace v) ++ c.discardTests v),
          .panicked text⟩) := by
  have hsweep := sweepActive_of_panic (ε := Violation) hsplit hearlier hpanics
  have ho : (sweepActive v modal : _ × Run Violation Unit).2.outcome = .panicked text := by
    rw [hsweep]
  rw [accessing, Act.lift_bind_of_returned hchecks, Act.bind_apply_of_panicked ho, hsweep]
  rfl

end Accessing

end Modal
end RuntimeContracts

import RuntimeContracts.Proofs.Modal.Interruption

/-!
# The order of evaluations

A write goes through the two lists of a modal value four times: it checks the active conditions,
then tests each pending trigger and checks what it triggers, and if nothing failed it asks the
active conditions for their discard and tests the pending triggers once more. A read checks and asks
the active conditions. The statements below say which evaluations an access performs, and in what
order, as long as none of them panics.
-/

namespace RuntimeContracts

/-- Where the first of two runs panics, both do. -/
theorem Run.isPanicked_of_bind {ε α β : Type} {run : Run ε α} {next : α → Run ε β}
    (hquiet : (run >>= next).outcome.isPanicked = false) : run.outcome.isPanicked = false := by
  cases ho : run.outcome with
  | panicked text =>
    rw [bind_of_panicked ho] at hquiet
    cases hquiet
  | _ => rfl

def Entry.isEvaluation : Entry → Bool
  | .tested _ | .checked _ => true
  | _ => false

def Trace.evaluations (trace : Trace) : Trace := trace.filter Entry.isEvaluation

@[simp] theorem Trace.evaluations_append (first second : Trace) :
    evaluations (first ++ second) = evaluations first ++ evaluations second :=
  List.filter_append ..

@[simp] theorem Trace.evaluations_reported (event : Event) :
    Trace.evaluations [.reported event] = [] := rfl

theorem Predicate.evaluations_tests {V : Type} (v : V) (p : Predicate V) :
    Trace.evaluations (p.tests v) = p.tests v := by
  refine List.filter_eq_self.2 fun entry hmem => ?_
  obtain ⟨label, rfl⟩ := mem_tests hmem
  rfl

inductive Condition.Part where
  | trigger
  | check
  | discard
deriving DecidableEq

structure Evaluation (V : Type) where
  part : Condition.Part
  condition : Condition V

namespace Evaluation

variable {V : Type}

def entries (v : V) (evaluation : Evaluation V) : Trace :=
  match evaluation.part with
  | .trigger => evaluation.condition.trigger.tests v
  | .check => evaluation.condition.evaluations v
  | .discard => evaluation.condition.discardTests v

/-- What a write evaluates of a pending condition: its check only if it is triggered. -/
def ofPending (v : V) (condition : Condition V) : List (Evaluation V) :=
  ⟨.trigger, condition⟩ :: if condition.trigger.Holds v then [⟨.check, condition⟩] else []

def conditionsOf (part : Condition.Part) (performed : List (Evaluation V)) : List (Condition V) :=
  (performed.filter fun evaluation => evaluation.part = part).map condition

@[simp] theorem conditionsOf_append (part : Condition.Part) (first second : List (Evaluation V)) :
    conditionsOf part (first ++ second) = conditionsOf part first ++ conditionsOf part second := by
  simp [conditionsOf]

@[simp] theorem conditionsOf_map (part other : Condition.Part) (conditions : List (Condition V)) :
    conditionsOf part (conditions.map fun c => ⟨other, c⟩) =
      if other = part then conditions else [] := by
  induction conditions with
  | nil => simp [conditionsOf]
  | cons condition rest ih => by_cases h : other = part <;> simp_all [conditionsOf]

@[simp] theorem conditionsOf_ofPending (part : Condition.Part) (v : V)
    (conditions : List (Condition V)) :
    conditionsOf part (conditions.flatMap (ofPending v)) =
      match part with
      | .trigger => conditions
      | .check => conditions.filter fun c => c.trigger.Holds v
      | .discard => [] := by
  induction conditions with
  | nil => cases part <;> rfl
  | cons condition rest ih =>
    rw [List.flatMap_cons, conditionsOf_append, ih]
    by_cases ht : condition.trigger.Holds v <;> cases part <;> simp [conditionsOf, ofPending, ht]

theorem evaluations_entries (v : V) (evaluation : Evaluation V) :
    Trace.evaluations (evaluation.entries v) = evaluation.entries v := by
  obtain ⟨part, condition⟩ := evaluation
  cases part with
  | trigger => exact condition.trigger.evaluations_tests v
  | check =>
    cases hrule : condition.rule with
    | requires p => simpa [entries, Condition.evaluations, hrule] using p.evaluations_tests v
    | custom check =>
      simp [entries, Condition.evaluations, hrule, Trace.evaluations, Entry.isEvaluation]
  | discard =>
    cases hdiscard : condition.discard with
    | none => simp [entries, Condition.discardTests, hdiscard, Trace.evaluations]
    | some p => simpa [entries, Condition.discardTests, hdiscard] using p.evaluations_tests v

theorem evaluations_flatMap (v : V) (performed : List (Evaluation V)) :
    Trace.evaluations (performed.flatMap (entries v)) = performed.flatMap (entries v) := by
  unfold Trace.evaluations
  rw [List.filter_flatMap]
  exact congrArg (performed.flatMap ·) (funext (evaluations_entries v))

/-- A pass over a list that evaluates one part of each condition. -/
theorem evaluations_pass {v : V} {part : Condition.Part} {leaves : Condition V → Trace}
    (h : ∀ c, Trace.evaluations (leaves c) = entries v ⟨part, c⟩)
    (conditions : List (Condition V)) :
    Trace.evaluations (conditions.flatMap leaves) =
      (conditions.map fun c => ⟨part, c⟩).flatMap (entries v) := by
  unfold Trace.evaluations
  rw [List.filter_flatMap, List.flatMap_map]
  exact congrArg (conditions.flatMap ·) (funext h)

end Evaluation

namespace Modal

variable {V : Type}

open Evaluation

variable [Describe V]

/-- The evaluations of a write, in order, and how they let it end. -/
inductive WriteEvaluates (modal : Modal V) (v : V) :
    List (Evaluation V) → Outcome Violation Unit → Prop where
  | activeFails {earlier rest : List (Condition V)} {c : Condition V} {reason : String}
      (hsplit : modal.active = earlier ++ c :: rest) (hearlier : ∀ b ∈ earlier, b.Passes v)
      (hfails : c.FailsWith v reason) :
      WriteEvaluates modal v ((earlier ++ [c]).map fun c => ⟨.check, c⟩)
        (.refused (c.violation v reason))
  | triggeredFails {earlier rest : List (Condition V)} {c : Condition V} {reason : String}
      (hactive : ∀ b ∈ modal.active, b.Passes v) (hsplit : modal.pending = earlier ++ c :: rest)
      (hearlier : ∀ b ∈ earlier, b.trigger.Holds v → b.Passes v) (ht : c.trigger.Holds v)
      (hfails : c.FailsWith v reason) :
      WriteEvaluates modal v
        ((modal.active.map fun c => ⟨.check, c⟩) ++ (earlier ++ [c]).flatMap (ofPending v))
        (.refused (c.violation v reason))
  | accepts (hactive : ∀ b ∈ modal.active, b.Passes v)
      (hpending : ∀ b ∈ modal.pending, b.trigger.Holds v → b.Passes v) :
      WriteEvaluates modal v
        ((modal.active.map fun c => ⟨.check, c⟩) ++ modal.pending.flatMap (ofPending v) ++
          (modal.active.map fun c => ⟨.discard, c⟩) ++ modal.pending.map fun c => ⟨.trigger, c⟩)
        (.returned ())

inductive ReadEvaluates (modal : Modal V) : List (Evaluation V) → Outcome Violation V → Prop where
  | activeFails {earlier rest : List (Condition V)} {c : Condition V} {reason : String}
      (hsplit : modal.active = earlier ++ c :: rest)
      (hearlier : ∀ b ∈ earlier, b.Passes modal.value) (hfails : c.FailsWith modal.value reason) :
      ReadEvaluates modal ((earlier ++ [c]).map fun c => ⟨.check, c⟩)
        (.refused (c.violation modal.value reason))
  | answers (hactive : ∀ b ∈ modal.active, b.Passes modal.value) :
      ReadEvaluates modal
        ((modal.active.map fun c => ⟨.check, c⟩) ++ modal.active.map fun c => ⟨.discard, c⟩)
        (.returned modal.value)

/-! ## How often each part is evaluated -/

/-- An accepted write tests each pending trigger twice, checks what was active and what it
activates once, and asks only what was active for its discard. -/
theorem WriteEvaluates.of_accepted {modal : Modal V} {v : V} {performed : List (Evaluation V)}
    (h : modal.WriteEvaluates v performed (.returned ())) :
    conditionsOf .trigger performed = modal.pending ++ modal.pending ∧
      conditionsOf .check performed =
        modal.active ++ (modal.pending.filter fun c => c.trigger.Holds v) ∧
      conditionsOf .discard performed = modal.active := by
  cases h with
  | accepts hactive hpending => simp

/-- A refused write asks for no discard, tests the triggers of the first pending conditions once and
ends with the check that fails. -/
theorem WriteEvaluates.of_refused {modal : Modal V} {v : V} {performed : List (Evaluation V)}
    {e : Violation} (h : modal.WriteEvaluates v performed (.refused e)) :
    conditionsOf .discard performed = [] ∧ conditionsOf .trigger performed <+: modal.pending ∧
      ∃ c reason, performed.getLast? = some ⟨.check, c⟩ ∧ c.FailsWith v reason ∧
        e = c.violation v reason := by
  cases h with
  | @activeFails earlier rest c reason hsplit hearlier hfails =>
    rw [conditionsOf_map, conditionsOf_map]
    exact ⟨rfl, List.nil_prefix, c, reason, by simp, hfails, rfl⟩
  | @triggeredFails earlier rest c reason hactive hsplit hearlier ht hfails =>
    rw [conditionsOf_append, conditionsOf_append, conditionsOf_map, conditionsOf_map,
      conditionsOf_ofPending, conditionsOf_ofPending]
    refine ⟨rfl, ⟨rest, ?_⟩, c, reason, ?_, hfails, rfl⟩
    · simp [hsplit]
    · simp [ofPending, ht]

/-! ## The checks -/

theorem checkAll_of_passes {v : V} {conditions : List (Condition V)}
    (h : ∀ c ∈ conditions, c.Passes v) :
    checkAll v conditions = ⟨conditions.flatMap (Condition.evaluations v), .returned ()⟩ := by
  have hreturned : ∀ c ∈ conditions, (c.demand v).outcome = .returned () :=
    fun c hmem => Condition.demand_returned_iff.2 (h c hmem)
  rw [checkAll_eq_each, Run.each_of_returned hreturned]
  simp [Run.traces, Condition.demand_eq]

/-- The checks stop at the first condition that does not pass. -/
theorem checkAll_of_first {v : V} {earlier rest : List (Condition V)} {c : Condition V}
    (hearlier : ∀ b ∈ earlier, b.Passes v) (hc : ¬ c.Passes v) :
    checkAll v (earlier ++ c :: rest) =
      ⟨(earlier ++ [c]).flatMap (Condition.evaluations v), (c.demand v).outcome⟩ := by
  have hreturned : ∀ b ∈ earlier, (b.demand v).outcome = .returned () :=
    fun b hmem => Condition.demand_returned_iff.2 (hearlier b hmem)
  rw [checkAll_eq_each, Run.each_of_stopped hreturned (mt Condition.demand_returned_iff.1 hc)]
  simp [Run.traces, Condition.demand_eq]

theorem trace_demandTriggered {v : V} {condition : Condition V}
    (h : condition.trigger.Holds v ∨ condition.trigger.Fails v) :
    (condition.demandTriggered v).trace = (ofPending v condition).flatMap (entries v) := by
  unfold Condition.demandTriggered
  rw [Predicate.eval_eq, Run.after_bind, Run.trace_after]
  rcases h with ht | ht
  · rw [Predicate.holds_iff.1 ht]
    simp [ofPending, ht, entries, Condition.demand_eq]
  · have hn := Predicate.not_holds_of_fails ht
    rw [Predicate.fails_iff.1 ht]
    simp [ofPending, hn, entries]

theorem demandTriggered_returned_iff {v : V} {condition : Condition V} :
    (condition.demandTriggered v).outcome = .returned () ↔
      condition.trigger.Holds v ∧ condition.Passes v ∨ condition.trigger.Fails v := by
  have hone : (checkTriggered v [condition]).outcome = .returned () ↔ _ :=
    checkTriggered_returned_iff
  simpa [checkTriggered_eq_each, Run.each_returned_iff] using hone

/-- What pending conditions leave whose triggers answer and which pass where they are triggered. -/
theorem traces_demandTriggered {v : V} {conditions : List (Condition V)}
    (h : ∀ c ∈ conditions, (c.demandTriggered v).outcome = .returned ()) :
    Run.traces (fun c => c.demandTriggered v) conditions =
      (conditions.flatMap (ofPending v)).flatMap (entries v) := by
  induction conditions with
  | nil => rfl
  | cons condition rest ih =>
    have hanswers := (demandTriggered_returned_iff.1 (h condition List.mem_cons_self)).imp_left
      And.left
    have hrest := ih fun c hmem => h c (List.mem_cons_of_mem condition hmem)
    rw [List.flatMap_cons, List.flatMap_append, ← trace_demandTriggered hanswers, ← hrest]
    rfl

omit [Describe V] in
theorem passes_of_holds {v : V} {condition : Condition V}
    (h : condition.trigger.Holds v ∧ condition.Passes v ∨ condition.trigger.Fails v)
    (ht : condition.trigger.Holds v) : condition.Passes v :=
  h.elim And.right fun hfails => absurd ht (Predicate.not_holds_of_fails hfails)

theorem checkTriggered_of_first {v : V} {earlier rest : List (Condition V)} {c : Condition V}
    (hearlier : ∀ b ∈ earlier, (b.demandTriggered v).outcome = .returned ())
    (ht : c.trigger.Holds v) (hc : (c.demandTriggered v).outcome ≠ .returned ()) :
    checkTriggered v (earlier ++ c :: rest) =
      ⟨((earlier ++ [c]).flatMap (ofPending v)).flatMap (entries v),
        (c.demandTriggered v).outcome⟩ := by
  have htraces : Run.traces (fun c => c.demandTriggered v) (earlier ++ [c]) =
      ((earlier ++ [c]).flatMap (ofPending v)).flatMap (entries v) := by
    unfold Run.traces
    rw [List.flatMap_append, List.flatMap_append, List.flatMap_append]
    exact congrArg₂ (· ++ ·) (traces_demandTriggered hearlier)
      (by simp [trace_demandTriggered (.inl ht)])
  rw [checkTriggered_eq_each, Run.each_of_stopped hearlier hc, htraces]

/-! ## What follows the checks -/

def activationTrace (v : V) (condition : Condition V) : Trace :=
  condition.trigger.tests v ++ if condition.trigger.Holds v then
    [.reported (.conditionActivated condition.description (describe v))] else []

theorem trace_activate {v : V} {conditions : List (Condition V)}
    (h : ∀ c ∈ conditions, c.trigger.Holds v ∨ c.trigger.Fails v) (modal : Modal V) :
    (activate v conditions modal : _ × Run Violation Unit).2.trace =
      conditions.flatMap (activationTrace v) := by
  induction conditions generalizing modal with
  | nil => rfl
  | cons condition rest ih =>
    have hrest := ih fun c hmem => h c (List.mem_cons_of_mem condition hmem)
    rcases h condition List.mem_cons_self with ht | ht
    · have ho : (condition.trigger.eval v : Run Violation Bool).outcome = .returned true := by
        simpa [Predicate.eval_eq] using Predicate.holds_iff.1 ht
      rw [activate, Act.lift_bind_of_returned ho]
      simp [Run.report, Predicate.eval_eq, hrest, activationTrace, ht]
    · have ho : (condition.trigger.eval v : Run Violation Bool).outcome = .returned false := by
        simpa [Predicate.eval_eq] using Predicate.fails_iff.1 ht
      have hn := Predicate.not_holds_of_fails ht
      rw [activate, Act.lift_bind_of_returned ho]
      simp [Predicate.eval_eq, hrest, activationTrace, hn]

theorem trace_settle {modal : Modal V} {v : V}
    (h : ∀ c ∈ modal.pending, c.trigger.Holds v ∨ c.trigger.Fails v) :
    (settle v modal).2.trace = modal.pending.flatMap (activationTrace v) := by
  have ho := (activatePending_ends (ε := Violation) modal h).1
  have htrace : (activatePending v modal : _ × Run Violation Unit).2.trace =
      modal.pending.flatMap (activationTrace v) := trace_activate h { modal with pending := [] }
  rw [settle, Act.bind_apply_of_returned ho]
  simp [htrace]

omit [Describe V] in
theorem evaluations_ite_reported (holds : Prop) [Decidable holds] (event : Event) :
    Trace.evaluations (if holds then [.reported event] else []) = [] := by
  split <;> rfl

theorem evaluations_activationTrace (v : V) (c : Condition V) :
    Trace.evaluations (activationTrace v c) = entries v ⟨.trigger, c⟩ := by
  rw [activationTrace, Trace.evaluations_append, evaluations_ite_reported, List.append_nil]
  exact evaluations_entries v ⟨.trigger, c⟩

theorem evaluations_releaseTrace (v : V) (c : Condition V) :
    Trace.evaluations (c.releaseTrace v) = entries v ⟨.discard, c⟩ := by
  rw [Condition.releaseTrace, Trace.evaluations_append, Condition.discardReport,
    evaluations_ite_reported, List.append_nil]
  exact evaluations_entries v ⟨.discard, c⟩

/-! ## Whole accesses -/

omit [Describe V] in
theorem entries_checks (v : V) (conditions : List (Condition V)) :
    ((conditions.map fun c => ⟨.check, c⟩).flatMap (entries v)) =
      conditions.flatMap (Condition.evaluations v) :=
  List.flatMap_map ..

omit [Describe V] in
theorem evaluations_checks (v : V) (conditions : List (Condition V)) :
    Trace.evaluations (conditions.flatMap (Condition.evaluations v)) =
      (conditions.map fun c => ⟨.check, c⟩).flatMap (entries v) :=
  evaluations_pass (fun c => evaluations_entries v ⟨.check, c⟩) conditions

theorem evaluations_releases (v : V) (conditions : List (Condition V)) :
    Trace.evaluations (conditions.flatMap (Condition.releaseTrace v)) =
      (conditions.map fun c => ⟨.discard, c⟩).flatMap (entries v) :=
  evaluations_pass (evaluations_releaseTrace v) conditions

/-- Checks that stop refuse, unless something has panicked. -/
theorem checkAll_of_quiet {v : V} {earlier rest : List (Condition V)} {c : Condition V}
    (hearlier : ∀ b ∈ earlier, b.Passes v) (hc : ¬ c.Passes v)
    (hquiet : (checkAll v (earlier ++ c :: rest)).outcome.isPanicked = false) :
    ∃ reason, c.FailsWith v reason ∧ checkAll v (earlier ++ c :: rest) =
      ⟨(earlier ++ [c]).flatMap (Condition.evaluations v), .refused (c.violation v reason)⟩ := by
  rw [checkAll_of_first hearlier hc] at hquiet ⊢
  rcases Condition.demand_ends hc with ⟨reason, hfails, ho⟩ | ⟨text, ho⟩
  · exact ⟨reason, hfails, by rw [ho]⟩
  · rw [ho] at hquiet
    cases hquiet

theorem checkTriggered_of_quiet {v : V} {earlier rest : List (Condition V)} {c : Condition V}
    (hearlier : ∀ b ∈ earlier, (b.demandTriggered v).outcome = .returned ())
    (hc : (c.demandTriggered v).outcome ≠ .returned ())
    (hquiet : (checkTriggered v (earlier ++ c :: rest)).outcome.isPanicked = false) :
    ∃ reason, c.trigger.Holds v ∧ c.FailsWith v reason ∧
      checkTriggered v (earlier ++ c :: rest) =
        ⟨((earlier ++ [c]).flatMap (ofPending v)).flatMap (entries v),
          .refused (c.violation v reason)⟩ := by
  rcases c.demandTriggered_ends v with
    ⟨_, _, ho⟩ | ⟨_, ho⟩ | ⟨ht, reason, hfails, ho⟩ | ⟨text, ho⟩
  · exact absurd ho hc
  · exact absurd ho hc
  · exact ⟨reason, ht, hfails, by rw [checkTriggered_of_first hearlier ht hc, ho]⟩
  · rw [checkTriggered_eq_each, Run.each_of_stopped hearlier hc, ho] at hquiet
    cases hquiet

theorem discardAnswers_of_quiet {α : Type} {checks : Run Violation Unit} {v : V}
    {next : Act (Modal V) Violation α} {modal : Modal V}
    (hchecks : checks.outcome = .returned ())
    (hquiet : (accessing checks v next modal).2.outcome.isPanicked = false) :
    ∀ c ∈ modal.active, c.DiscardAnswers v := by
  rcases Condition.answers_or_first_panic v modal.active with
    hanswers | ⟨earlier, c, rest, text, hsplit, hearlier, hpanics⟩
  · exact hanswers
  · rw [accessing_of_panic hchecks hsplit hearlier hpanics] at hquiet
    cases hquiet

/-- Where the checks of an access panic, so does the access. -/
theorem checks_quiet {α : Type} {checks : Run Violation Unit} {v : V}
    {next : Act (Modal V) Violation α} {modal : Modal V}
    (hquiet : (accessing checks v next modal).2.outcome.isPanicked = false) :
    checks.outcome.isPanicked = false := by
  cases ho : checks.outcome with
  | panicked text =>
    rw [accessing_of_panicked ho] at hquiet
    cases hquiet
  | _ => rfl

theorem writeChecks_of_clears {modal : Modal V} {v : V} (h : modal.Clears v) :
    modal.writeChecks v = ⟨((modal.active.map fun c => ⟨.check, c⟩) ++
      modal.pending.flatMap (ofPending v) : List (Evaluation V)).flatMap (entries v),
        .returned ()⟩ := by
  have hpending : ∀ c ∈ modal.pending, (c.demandTriggered v).outcome = .returned () :=
    fun c hmem => demandTriggered_returned_iff.2 (h.pending c hmem)
  rw [writeChecks, checkAll_of_passes h.active, Run.mk_returned_bind, checkTriggered_eq_each,
    Run.each_of_returned hpending, traces_demandTriggered hpending, List.flatMap_append,
    entries_checks]
  rfl

/-- Checks that refuse a write have performed the evaluations up to the check that fails. -/
theorem writeChecks_of_quiet {modal : Modal V} {v : V} (h : ¬ modal.Clears v)
    (hquiet : (modal.writeChecks v).outcome.isPanicked = false) :
    ∃ performed e, modal.WriteEvaluates v performed (.refused e) ∧
      modal.writeChecks v = ⟨performed.flatMap (entries v), .refused e⟩ := by
  unfold writeChecks at hquiet ⊢
  rcases forall_or_exists_first (fun c : Condition V => c.Passes v) modal.active with
    hactive | ⟨earlier, c, rest, hsplit, hearlier, hc⟩
  · rcases forall_or_exists_first
        (fun c : Condition V => (c.demandTriggered v).outcome = .returned ()) modal.pending with
      hpending | ⟨earlier, c, rest, hsplit, hearlier, hc⟩
    · exact absurd ⟨hactive, fun c hmem => demandTriggered_returned_iff.1 (hpending c hmem)⟩ h
    · rw [checkAll_of_passes hactive, Run.mk_returned_bind, hsplit] at hquiet ⊢
      obtain ⟨reason, ht, hfails, hrun⟩ := checkTriggered_of_quiet hearlier hc hquiet
      have hpasses : ∀ b ∈ earlier, b.trigger.Holds v → b.Passes v :=
        fun b hmem => passes_of_holds (demandTriggered_returned_iff.1 (hearlier b hmem))
      refine ⟨_, _, .triggeredFails hactive hsplit hpasses ht hfails, ?_⟩
      simp [hrun, Run.after, entries_checks]
  · rw [hsplit] at hquiet ⊢
    obtain ⟨reason, hfails, hrun⟩ :=
      checkAll_of_quiet hearlier hc (Run.isPanicked_of_bind hquiet)
    refine ⟨_, _, .activeFails hsplit hearlier hfails, ?_⟩
    rw [hrun, entries_checks, Run.mk_refused_bind]

theorem write_evaluates {modal : Modal V} {v : V}
    (hquiet : (write v modal).2.outcome.isPanicked = false) :
    ∃ performed, modal.WriteEvaluates v performed (write v modal).2.outcome ∧
      (write v modal).2.trace.evaluations = performed.flatMap (entries v) := by
  rw [write_eq_accessing] at hquiet ⊢
  by_cases hclears : modal.Clears v
  · have hchecks := writeChecks_of_clears hclears
    have hreturned := clears_iff.1 hclears
    -- The release keeps the pending conditions, so every trigger answers as it did in the checks.
    let released : Modal V := { modal with active := modal.active.filter fun c => ¬ c.Retires v }
    have hanswers : ∀ c ∈ released.pending, c.trigger.Holds v ∨ c.trigger.Fails v :=
      fun c hmem => (hclears.pending c hmem).imp_left And.left
    rw [accessing_of_answers hreturned (discardAnswers_of_quiet hreturned hquiet),
      Run.outcome_after, Run.trace_after, hchecks]
    rw [(settle_of_answers hanswers).2, trace_settle hanswers]
    have hpasses : ∀ c ∈ modal.pending, c.trigger.Holds v → c.Passes v :=
      fun c hmem => passes_of_holds (hclears.pending c hmem)
    refine ⟨_, .accepts hclears.active hpasses, ?_⟩
    simp only [Trace.evaluations_append, evaluations_flatMap, evaluations_releases,
      evaluations_pass (evaluations_activationTrace v), List.flatMap_append, released]
  · obtain ⟨performed, e, hperformed, hrun⟩ := writeChecks_of_quiet hclears (checks_quiet hquiet)
    have hrefused : (modal.writeChecks v).outcome = .refused e := by rw [hrun]
    rw [accessing_of_refused hrefused, hrun]
    exact ⟨performed, hperformed, evaluations_flatMap v performed⟩

theorem read_evaluates {modal : Modal V} (hquiet : (read modal).2.outcome.isPanicked = false) :
    ∃ performed, modal.ReadEvaluates performed (read modal).2.outcome ∧
      (read modal).2.trace.evaluations = performed.flatMap (entries modal.value) := by
  rw [read_eq_accessing] at hquiet ⊢
  rcases forall_or_exists_first (fun c : Condition V => c.Passes modal.value) modal.active with
    hactive | ⟨earlier, c, rest, hsplit, hearlier, hc⟩
  · have hreturned := checkAll_returned_iff.2 hactive
    rw [accessing_of_answers hreturned (discardAnswers_of_quiet hreturned hquiet),
      checkAll_of_passes hactive]
    refine ⟨_, .answers hactive, ?_⟩
    rw [Run.trace_after, Trace.evaluations_append, Trace.evaluations_append, evaluations_checks,
      evaluations_releases, List.flatMap_append]
    exact List.append_nil _
  · have hchecks := checks_quiet hquiet
    rw [hsplit] at hchecks
    obtain ⟨reason, hfails, hrun⟩ := checkAll_of_quiet hearlier hc hchecks
    rw [← hsplit] at hrun
    have hrefused : (checkAll modal.value modal.active).outcome =
        .refused (c.violation modal.value reason) := by rw [hrun]
    rw [accessing_of_refused hrefused, hrun]
    exact ⟨_, .activeFails hsplit hearlier hfails, evaluations_checks ..⟩

/-- As long as nothing panics, a write performs the evaluations of `WriteEvaluates` and no others,
and a read those of `ReadEvaluates`. An accepted write tests every pending trigger twice, checks
what was active and what it activates once, and asks nothing that it activates for its discard. A
refused write asks for no discard, tests no trigger twice, and names the condition of the last
evaluation. -/
theorem accesses_evaluate_in_order (modal : Modal V) :
    (∀ v, (write v modal).2.outcome.isPanicked = false →
      ∃ performed, modal.WriteEvaluates v performed (write v modal).2.outcome ∧
        (write v modal).2.trace.evaluations = performed.flatMap (entries v) ∧
        ((write v modal).2.outcome = .returned () →
          let activated := modal.pending.filter fun c => c.trigger.Holds v
          (write v modal).1.active = (modal.active.filter fun c => ¬ c.Retires v) ++ activated ∧
            conditionsOf .trigger performed = modal.pending ++ modal.pending ∧
            conditionsOf .check performed = modal.active ++ activated ∧
            conditionsOf .discard performed = modal.active) ∧
        ∀ e, (write v modal).2.outcome = .refused e →
          conditionsOf .discard performed = [] ∧
            conditionsOf .trigger performed <+: modal.pending ∧
            ∃ c reason, performed.getLast? = some ⟨.check, c⟩ ∧ c.FailsWith v reason ∧
              e = .conditionViolated c.description (describe v) reason) ∧
      ((read modal).2.outcome.isPanicked = false →
        ∃ performed, modal.ReadEvaluates performed (read modal).2.outcome ∧
          (read modal).2.trace.evaluations = performed.flatMap (entries modal.value)) := by
  refine ⟨fun v hquiet => ?_, read_evaluates⟩
  obtain ⟨performed, hperformed, htrace⟩ := write_evaluates hquiet
  refine ⟨performed, hperformed, htrace, fun haccepted => ⟨?_, ?_⟩, fun e hrefused => ?_⟩
  · have hstate := write_ends modal v
    rw [haccepted] at hstate
    generalize (write v modal).1 = final at hstate
    cases hstate
    rfl
  · rw [haccepted] at hperformed
    exact hperformed.of_accepted
  · rw [hrefused] at hperformed
    exact hperformed.of_refused

/-- A write that activates two conditions tests each of their triggers twice and asks neither for
its discard. A candidate that the active condition does not admit is refused. -/
theorem activating_write_tests_triggers_twice :
    let modal : Modal String := ⟨"idle", [brief, brief], [held]⟩
    (write "started" modal).2.outcome = .returned () ∧
      (∃ performed, (write "started" modal).2.trace.evaluations =
          performed.flatMap (entries "started") ∧
        conditionsOf .trigger performed = [brief, brief, brief, brief] ∧
        conditionsOf .check performed = [held, brief, brief] ∧
        conditionsOf .discard performed = [held]) ∧
      (∃ performed c reason, modal.WriteEvaluates "failed" performed
          (.refused (.conditionViolated c.description (describe "failed") reason)) ∧
        performed.getLast? = some ⟨.check, c⟩ ∧ conditionsOf .discard performed = []) ∧
      ∃ performed, modal.ReadEvaluates performed (.returned "idle") := by
  intro modal
  obtain ⟨hwrites, hreads⟩ := accesses_evaluate_in_order modal
  have haccepted : (write "started" modal).2.outcome = .returned () := rfl
  refine ⟨haccepted, ?_, ?_, ?_⟩
  · obtain ⟨performed, -, htrace, hcounts, -⟩ := hwrites "started" rfl
    obtain ⟨-, htriggers, hchecks, hdiscards⟩ := hcounts haccepted
    exact ⟨performed, htrace, htriggers, hchecks, hdiscards⟩
  · have hrefused : (write "failed" modal).2.outcome = .refused (.conditionViolated "held"
        (describe "failed") (Condition.unsatisfiedReason (.negate failed))) := rfl
    obtain ⟨performed, hperformed, -, -, hlast⟩ := hwrites "failed" rfl
    obtain ⟨hdiscards, -, c, reason, hend, -, hnamed⟩ := hlast _ hrefused
    rw [hrefused, hnamed] at hperformed
    exact ⟨performed, c, reason, hperformed, hend, hdiscards⟩
  · obtain ⟨performed, hperformed, -⟩ := hreads rfl
    exact ⟨performed, hperformed⟩

end Modal
end RuntimeContracts

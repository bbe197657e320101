import RuntimeContracts.Proofs.Modal.Interruption

/-!
# The order of conditions makes no difference

Two modal values that hold the same value and the same conditions, in whatever order, go through the
same accesses alike as long as no predicate and no check panics: each access is accepted by both or
refused by both, and leaves both with the same value and the same conditions again. Only the
condition that a refusal names depends on the order.
-/

namespace RuntimeContracts

namespace Run

variable {ε α β : Type}

theorem isPanicked_bind {run : Run ε α} {next : α → Run ε β}
    (h : run.outcome.isPanicked = false) (hnext : ∀ a, (next a).outcome.isPanicked = false) :
    (run >>= next).outcome.isPanicked = false := by
  cases ho : run.outcome with
  | returned a =>
    rw [bind_of_returned ho]
    exact hnext a
  | refused e =>
    rw [bind_of_refused ho]
    rfl
  | panicked text =>
    rw [ho] at h
    cases h
  | aborted text =>
    rw [bind_of_aborted ho]
    rfl

theorem isPanicked_each {work : α → Run ε Unit} {items : List α}
    (h : ∀ a ∈ items, (work a).outcome.isPanicked = false) :
    (each work items).outcome.isPanicked = false := by
  by_cases ho : (each work items).outcome = .returned ()
  · rw [ho]
    rfl
  · obtain ⟨a, hmem, -, ha⟩ := exists_outcome_each ho
    rw [ha]
    exact h a hmem

end Run

namespace Condition

variable {V ε : Type}

structure Calm (condition : Condition V) : Prop where
  trigger : ∀ v, (condition.trigger.eval v : Run Empty Bool).outcome.isPanicked = false
  check : ∀ v, (condition.check v : Run Empty (Option String)).outcome.isPanicked = false
  discard : ∀ v, (condition.discards v : Run Empty Bool).outcome.isPanicked = false

variable {condition : Condition V}

theorem Calm.holds_or_fails (h : condition.Calm) (v : V) :
    condition.trigger.Holds v ∨ condition.trigger.Fails v := by
  have htrigger := h.trigger v
  rw [Predicate.eval_eq] at htrigger
  cases hverdict : condition.trigger.verdict v with
  | ok answer => exact Predicate.holds_or_fails hverdict
  | error text =>
    rw [hverdict] at htrigger
    cases htrigger

theorem Calm.discardAnswers (h : condition.Calm) (v : V) : condition.DiscardAnswers v := by
  intro text hpanics
  have hdiscard := h.discard v
  rw [discards_eq, discardPanicsWith_iff.1 hpanics] at hdiscard
  cases hdiscard

variable [Describe V]

theorem Calm.isPanicked_demand (h : condition.Calm) (v : V) :
    (condition.demand v).outcome.isPanicked = false := by
  have hcheck := h.check v
  rw [check_eq] at hcheck
  rw [demand_eq]
  match hverdict : condition.verdict v with
  | .ok none => rfl
  | .ok (some reason) => rfl
  | .error text =>
    rw [hverdict] at hcheck
    cases hcheck

theorem Calm.isPanicked_demandTriggered (h : condition.Calm) (v : V) :
    (condition.demandTriggered v).outcome.isPanicked = false := by
  refine Run.isPanicked_bind ?_ fun triggered => ?_
  · rcases h.holds_or_fails v with hholds | hfails
    · simp [Predicate.eval_eq, Predicate.holds_iff.1 hholds, Outcome.isPanicked]
    · simp [Predicate.eval_eq, Predicate.fails_iff.1 hfails, Outcome.isPanicked]
  · cases triggered with
    | true => exact h.isPanicked_demand v
    | false => rfl

end Condition

namespace Modal

open Session

variable {V : Type}

structure Rearranged (first second : Modal V) : Prop where
  value_eq : first.value = second.value
  pending_perm : first.pending.Perm second.pending
  active_perm : first.active.Perm second.active

variable {first second modal : Modal V}

theorem rearranged_new (value : V) {conditions conditions' : List (Condition V)}
    (h : conditions.Perm conditions') :
    (Modal.new value conditions).Rearranged (Modal.new value conditions') :=
  ⟨rfl, h, .nil⟩

theorem Rearranged.symm (h : first.Rearranged second) : second.Rearranged first :=
  ⟨h.value_eq.symm, h.pending_perm.symm, h.active_perm.symm⟩

theorem Rearranged.attach (h : first.Rearranged second) (condition : Condition V) :
    (first.attach condition).Rearranged (second.attach condition) where
  value_eq := h.value_eq
  pending_perm := h.pending_perm.append_right _
  active_perm := h.active_perm

theorem Rearranged.committed (h : first.Rearranged second) (v : V) :
    (first.committed v).Rearranged (second.committed v) where
  value_eq := rfl
  pending_perm := h.pending_perm.filter _
  active_perm := (h.active_perm.filter _).append (h.pending_perm.filter _)

theorem Rearranged.clears (h : first.Rearranged second) {v : V} (hclears : first.Clears v) :
    second.Clears v where
  active c hmem := hclears.active c (h.active_perm.mem_iff.2 hmem)
  pending c hmem := hclears.pending c (h.pending_perm.mem_iff.2 hmem)

theorem Rearranged.binds (h : first.Rearranged second) {v : V} {c : Condition V}
    (hbinds : first.Binds v c) : second.Binds v c :=
  hbinds.imp h.active_perm.mem_iff.1 (And.imp_left h.pending_perm.mem_iff.1)

structure Steady (modal : Modal V) : Prop where
  enforced : modal.Enforced
  calm : ∀ c ∈ modal.conditions, c.Calm

theorem Steady.active (h : modal.Steady) {c : Condition V} (hmem : c ∈ modal.active) : c.Calm :=
  h.calm c (List.mem_append_right _ hmem)

theorem Steady.pending (h : modal.Steady) {c : Condition V} (hmem : c ∈ modal.pending) : c.Calm :=
  h.calm c (List.mem_append_left _ hmem)

theorem Rearranged.steady (h : first.Rearranged second) (hsteady : first.Steady) :
    second.Steady where
  enforced c hmem := by
    rw [← h.value_eq]
    exact hsteady.enforced c (h.active_perm.mem_iff.2 hmem)
  calm c hmem := hsteady.calm c ((h.pending_perm.append h.active_perm).mem_iff.2 hmem)

variable [Describe V]

theorem Steady.isPanicked_writeChecks (h : modal.Steady) (v : V) :
    (modal.writeChecks v).outcome.isPanicked = false := by
  refine Run.isPanicked_bind ?_ fun _ => ?_
  · rw [checkAll_eq_each]
    exact Run.isPanicked_each fun c hmem => (h.active hmem).isPanicked_demand v
  · rw [checkTriggered_eq_each]
    exact Run.isPanicked_each fun c hmem => (h.pending hmem).isPanicked_demandTriggered v

/-- A write without panics is accepted exactly if the checks pass. -/
theorem Steady.write (h : modal.Steady) (v : V) :
    modal.Clears v ∧ (write v modal).1 = modal.committed v ∧
        (write v modal).2.outcome = .returned () ∨
      ¬ modal.Clears v ∧ (write v modal).1 = modal ∧
        ∃ c, modal.Binds v c ∧ ∃ reason, c.FailsWith v reason ∧
          (write v modal).2.outcome = .refused (c.violation v reason) := by
  by_cases hclears : modal.Clears v
  · exact .inl ⟨hclears, (panicSafe_write modal v).of_answers hclears
      fun c hmem => (h.active hmem).discardAnswers v⟩
  · refine .inr ⟨hclears, ?_⟩
    rcases writeChecks_ends hclears with ⟨c, hbinds, reason, hfails, ho⟩ | ⟨text, ho⟩
    · rw [write_eq_accessing, accessing_of_refused ho]
      exact ⟨rfl, c, hbinds, reason, hfails, rfl⟩
    · have hquiet := h.isPanicked_writeChecks v
      rw [ho] at hquiet
      cases hquiet

theorem Steady.read (h : modal.Steady) : (read modal).1 =
      { modal with active := modal.active.filter fun c => ¬ c.Retires modal.value } ∧
    (read modal).2.outcome = .returned modal.value :=
  (panicSafe_read modal).of_answers h.enforced fun _ hmem => (h.active hmem).discardAnswers _

/-- An access takes in no condition but the one that it registers. -/
theorem Steady.attempt (h : modal.Steady) {request : Request V}
    (haccess : request.isAccess = true) (hcalm : ∀ c ∈ request.attached, c.Calm) :
    ∃ final, (attempt request (some modal)).1 = some final ∧ final.Steady := by
  obtain ⟨final, gone, hfinal, hpassage⟩ := exists_passage_attempt haccess modal
  obtain ⟨enforced, hsame, henforced⟩ := enforced_attempt request h.enforced
  obtain rfl : final = enforced := Option.some.inj (hfinal.symm.trans hsame)
  refine ⟨final, hfinal, henforced, fun c hmem => ?_⟩
  -- What is kept was there before, or has just been registered.
  have hthere := hpassage.perm.mem_iff.1 (List.mem_append_left gone hmem)
  exact (List.mem_append.1 hthere).elim (h.calm c) (hcalm c)

/-- Attempts at the request are answered alike: with the same reply, except that lists are shown in
the order of each side, or with violations of conditions that fail and that the write binds on both
sides. -/
inductive AnsweredAlike (first second : Modal V) : Request V →
    Outcome Violation (Option (Reply V)) → Outcome Violation (Option (Reply V)) → Prop where
  | accepted (request : Request V) (reply : Reply V) :
      AnsweredAlike first second request (.returned (some reply)) (.returned (some reply))
  | shown (pretty : Bool) (text text' : String) : AnsweredAlike first second (.showDebug pretty)
      (.returned (some (.text text))) (.returned (some (.text text')))
  | refused (form : Form) {v : V} {c c' : Condition V} {reason reason' : String}
      (hbinds : first.Binds v c ∧ second.Binds v c) (hfails : c.FailsWith v reason)
      (hbinds' : first.Binds v c' ∧ second.Binds v c') (hfails' : c'.FailsWith v reason') :
      AnsweredAlike first second (.write form v) (.refused (c.violation v reason))
        (.refused (c'.violation v reason'))

/-- Enforcing the violations leaves them alike. -/
theorem AnsweredAlike.inForm {request : Request V} {run run' : Run Violation (Option (Reply V))}
    (h : AnsweredAlike first second request run.outcome run'.outcome) (mode : FailureMode)
    (form : Form) :
    (run'.inForm mode form).outcome.isReturned = (run.inForm mode form).outcome.isReturned ∧
      (run'.inForm mode form).outcome.isAborted = (run.inForm mode form).outcome.isAborted := by
  obtain ⟨trace, outcome⟩ := run
  obtain ⟨trace', outcome'⟩ := run'
  cases h with
  | accepted reply => cases form <;> exact ⟨rfl, rfl⟩
  | shown pretty text text' => cases form <;> exact ⟨rfl, rfl⟩
  | refused => cases form <;> cases mode <;> exact ⟨rfl, rfl⟩

theorem Rearranged.attempt_write (h : first.Rearranged second) (hsteady : first.Steady)
    (form : Form) (v : V) :
    (write v first).1.Rearranged (write v second).1 ∧
      AnsweredAlike first second (.write form v) (attempt (.write form v) (some first)).2.outcome
        (attempt (.write form v) (some second)).2.outcome := by
  rw [attempt_write_some, attempt_write_some]
  rcases hsteady.write v with
    ⟨hclears, hstate, ho⟩ | ⟨hclears, hstate, c, hbinds, reason, hfails, ho⟩
  · rcases (h.steady hsteady).write v with ⟨-, hstate', ho'⟩ | ⟨hclears', -⟩
    · rw [hstate, hstate', ho, ho']
      exact ⟨h.committed v, .accepted _ .done⟩
    · exact absurd (h.clears hclears) hclears'
  · rcases (h.steady hsteady).write v with
      ⟨hclears', -⟩ | ⟨-, hstate', c', hbinds', reason', hfails', ho'⟩
    · exact absurd (h.symm.clears hclears') hclears
    · rw [hstate, hstate', ho, ho']
      exact ⟨h, .refused form ⟨hbinds, h.binds hbinds⟩ hfails ⟨h.symm.binds hbinds', hbinds'⟩
        hfails'⟩

theorem Rearranged.attempt_read (h : first.Rearranged second) (hsteady : first.Steady)
    (form : Form) :
    (read first).1.Rearranged (read second).1 ∧
      AnsweredAlike first second (.read form) (attempt (.read form) (some first)).2.outcome
        (attempt (.read form) (some second)).2.outcome := by
  obtain ⟨hstate, ho⟩ := hsteady.read
  obtain ⟨hstate', ho'⟩ := (h.steady hsteady).read
  rw [attempt_read_some, attempt_read_some, hstate, hstate', ho, ho', h.value_eq]
  exact ⟨⟨rfl, h.pending_perm, h.active_perm.filter _⟩, .accepted _ (.value second.value)⟩

/-- One access keeps the two rearranged. -/
theorem Rearranged.attempt (h : first.Rearranged second) (hsteady : first.Steady)
    {request : Request V} (haccess : request.isAccess = true) :
    ∃ final final', (attempt request (some first)).1 = some final ∧
      (attempt request (some second)).1 = some final' ∧ final.Rearranged final' ∧
      AnsweredAlike first second request (attempt request (some first)).2.outcome
        (attempt request (some second)).2.outcome := by
  cases request with
  | new value conditions => cases haccess
  | write form v =>
    obtain ⟨hafter, hanswers⟩ := h.attempt_write hsteady form v
    exact ⟨_, _, by rw [attempt_write_some], by rw [attempt_write_some], hafter, hanswers⟩
  | read form =>
    obtain ⟨hafter, hanswers⟩ := h.attempt_read hsteady form
    exact ⟨_, _, by rw [attempt_read_some], by rw [attempt_read_some], hafter, hanswers⟩
  | attach condition => exact ⟨_, _, rfl, rfl, h.attach condition, .accepted _ .done⟩
  | showDebug pretty => exact ⟨first, second, rfl, rfl, h, .shown pretty _ _⟩
  | describeCondition condition pretty => exact ⟨first, second, rfl, rfl, h, .accepted _ _⟩

structure StepsAlike (first second final final' : Modal V) (turn turn' : AccessTurn V) : Prop where
  request_eq : turn'.request = turn.request
  before_eq : turn.before = some first
  before_eq' : turn'.before = some second
  before : first.Rearranged second
  state_eq : turn.report.state = some final
  state_eq' : turn'.report.state = some final'
  after : final.Rearranged final'
  answers : AnsweredAlike first second turn.request
    (machine.attempt turn.request turn.before).2.outcome
    (machine.attempt turn'.request turn'.before).2.outcome
  accepted_eq : turn'.accepted = turn.accepted

def TurnsAlike (turn turn' : AccessTurn V) : Prop :=
  ∃ first second final final', StepsAlike first second final final' turn turn'

theorem Rearranged.turns_alike (mode : FailureMode) {requests : List (Request V)}
    (haccess : ∀ request ∈ requests, request.isAccess = true)
    (hcalm : ∀ request ∈ requests, ∀ c ∈ request.attached, c.Calm)
    (h : first.Rearranged second) (hsteady : first.Steady) :
    List.Forall₂ TurnsAlike (turns (machine.step mode) (some first) requests)
      (turns (machine.step mode) (some second) requests) := by
  induction requests generalizing first second with
  | nil => exact .nil
  | cons request rest ih =>
    have haccessFirst := haccess request List.mem_cons_self
    obtain ⟨final, final', hfinal, hfinal', hafter, hanswers⟩ := h.attempt hsteady haccessFirst
    obtain ⟨last, hlast, hsteady'⟩ :=
      hsteady.attempt haccessFirst (hcalm request List.mem_cons_self)
    obtain rfl : final = last := Option.some.inj (hfinal.symm.trans hlast)
    obtain ⟨hreturned, haborted⟩ := hanswers.inForm mode request.form
    have hrest := ih (fun other hmem => haccess other (List.mem_cons_of_mem request hmem))
      (fun other hmem => hcalm other (List.mem_cons_of_mem request hmem)) hafter hsteady'
    have hstate : (machine.step mode request (some first)).1 = some final := hfinal
    have hstate' : (machine.step mode request (some second)).1 = some final' := hfinal'
    have haborted' : (machine.step mode request (some second)).2.outcome.isAborted =
        (machine.step mode request (some first)).2.outcome.isAborted := haborted
    rw [turns_cons, turns_cons, haborted', hstate, hstate']
    refine .cons ⟨first, second, final, final', ?_⟩ ?_
    · exact ⟨rfl, rfl, rfl, h, rfl, rfl, hafter, hanswers, hreturned⟩
    · split
      · exact .nil
      · exact hrest

/-- The order of conditions never decides what a modal value accepts. Two modal values made with the
same value and rearranged conditions, of which nothing panics, go through the same accesses in
lockstep: before and after each one they are rearranged, and each is answered alike. -/
theorem condition_order_unobserved (mode : FailureMode) (value : V)
    {conditions conditions' : List (Condition V)} (hperm : conditions.Perm conditions')
    (hcalm : ∀ c ∈ conditions, c.Calm) {requests : List (Request V)}
    (haccess : ∀ request ∈ requests, request.isAccess = true)
    (hattached : ∀ request ∈ requests, ∀ c ∈ request.attached, c.Calm) :
    List.Forall₂ TurnsAlike
      (turns (machine.step mode) (some (Modal.new value conditions)) requests)
      (turns (machine.step mode) (some (Modal.new value conditions')) requests) := by
  refine (rearranged_new value hperm).turns_alike mode haccess hattached ⟨?_, fun c hmem => ?_⟩
  · exact enforced_new value conditions
  · exact hcalm c ((List.mem_append.1 hmem).elim id nofun)

def lasting : Condition String := Condition.ofRequirement "lasting" started (.negate failed)

def passing : Condition String :=
  (Condition.ofRequirement "passing" started (.negate failed)).retireWhen
    (.named "stopped" fun phase => .ok (phase == "stopped"))

theorem calm_lasting : lasting.Calm where
  trigger phase := rfl
  check phase := Run.isPanicked_bind rfl fun passes => by cases passes <;> rfl
  discard phase := rfl

theorem calm_passing : passing.Calm where
  trigger phase := rfl
  check phase := Run.isPanicked_bind rfl fun passes => by cases passes <;> rfl
  discard phase := rfl

def failures : List (Request String) :=
  [.write .checked "started", .attach lasting, .read .failFast, .write .failFast "failed",
    .write .checked "failed"]

/-- The two orders are refused with different conditions. -/
theorem condition_order_unobserved_failures :
    let first := turns (machine.step .panic) (some (Modal.new "idle" [lasting, passing])) failures
    let second := turns (machine.step .panic) (some (Modal.new "idle" [passing, lasting])) failures
    let reason := Condition.unsatisfiedReason failed.negate
    [lasting, passing].Perm [passing, lasting] ∧ (∀ c ∈ [lasting, passing], c.Calm) ∧
      (∀ request ∈ failures, request.isAccess = true) ∧
      (∀ request ∈ failures, ∀ c ∈ request.attached, c.Calm) ∧
      List.Forall₂ TurnsAlike first second ∧
      first.getLast?.map (·.report.run.outcome) =
        some (.refused (lasting.violation "failed" reason)) ∧
      second.getLast?.map (·.report.run.outcome) =
        some (.refused (passing.violation "failed" reason)) := by
  intro first second reason
  have hperm : [lasting, passing].Perm [passing, lasting] := .swap passing lasting []
  have hcalm : ∀ c ∈ [lasting, passing], c.Calm := by
    simp [calm_lasting, calm_passing]
  have haccess : ∀ request ∈ failures, request.isAccess = true := by decide
  have hattached : ∀ request ∈ failures, ∀ c ∈ request.attached, c.Calm := by
    simp [failures, Request.attached, calm_lasting]
  exact ⟨hperm, hcalm, haccess, hattached,
    condition_order_unobserved .panic "idle" hperm hcalm haccess hattached, rfl, rfl⟩

end Modal
end RuntimeContracts

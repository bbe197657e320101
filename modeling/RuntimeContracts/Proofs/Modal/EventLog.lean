import RuntimeContracts.Modal.Session
import RuntimeContracts.Proofs.Modal.Access
import RuntimeContracts.Proofs.Run.Stopping
import RuntimeContracts.Proofs.Session.Answered
import RuntimeContracts.Proofs.Session.Erasure

/-!
# The event log of a modal value

A modal value reports each condition that it activates or discards. The log therefore accounts for
its two lists: for every description, what was registered is what was activated and what is pending,
and what was activated is what was discarded and what is active, also where a panic interrupted an
access halfway.
-/

namespace RuntimeContracts

def Event.tells (message condition : String) (event : Event) : Bool :=
  event.message = message ∧ event.fields.lookup "condition" = some condition

theorem Event.tells_of_message {event : Event} {message condition : String}
    (hmessage : event.message = message)
    (hfields : event.fields.lookup "condition" = some condition) (d : String) :
    event.tells message d = (condition == d) := by
  rw [tells, hmessage, hfields]
  simp [Bool.beq_eq_decide_eq]

namespace Trace

def activations (d : String) (trace : Trace) : Nat :=
  trace.events.countP (Event.tells "condition activated" d)

def discards (d : String) (trace : Trace) : Nat :=
  trace.events.countP (Event.tells "condition discarded" d)

def TellsOnly (message : String) (trace : Trace) : Prop :=
  ∀ event ∈ trace.events, event.message = message

variable {trace : Trace} {d : String}

@[simp] theorem activations_append (d : String) (first second : Trace) :
    activations d (first ++ second) = activations d first + activations d second := by
  simp [activations]

@[simp] theorem discards_append (d : String) (first second : Trace) :
    discards d (first ++ second) = discards d first + discards d second := by
  simp [discards]

theorem activations_of_quiet (h : trace.events = []) (d : String) : trace.activations d = 0 := by
  simp [activations, h]

theorem discards_of_quiet (h : trace.events = []) (d : String) : trace.discards d = 0 := by
  simp [discards, h]

@[simp] theorem activations_activated (d condition value : String) :
    activations d [.reported (.conditionActivated condition value)] = [condition].count d := by
  have htells : (Event.conditionActivated condition value).tells "condition activated" d =
      (condition == d) := Event.tells_of_message rfl List.lookup_cons_self d
  change List.countP _ [Event.conditionActivated condition value] = _
  rw [List.countP_singleton, htells, List.count_singleton]

@[simp] theorem discards_discarded (d condition value : String) :
    discards d [.reported (.conditionDiscarded condition value)] = [condition].count d := by
  have htells : (Event.conditionDiscarded condition value).tells "condition discarded" d =
      (condition == d) := Event.tells_of_message rfl List.lookup_cons_self d
  change List.countP _ [Event.conditionDiscarded condition value] = _
  rw [List.countP_singleton, htells, List.count_singleton]

theorem TellsOnly.countP_eq_zero {message other : String} (h : trace.TellsOnly message)
    (hother : message ≠ other) (d : String) : trace.events.countP (Event.tells other d) = 0 := by
  rw [List.countP_eq_zero]
  intro event hmem htells
  have hmessage : event.message = other := (of_decide_eq_true htells).1
  exact hother ((h event hmem).symm.trans hmessage)

theorem tellsOnly_of_quiet (h : trace.events = []) (message : String) :
    trace.TellsOnly message := by
  intro event hmem
  rw [h] at hmem
  cases hmem

theorem TellsOnly.append {message : String} {second : Trace} (h : trace.TellsOnly message)
    (hsecond : second.TellsOnly message) : TellsOnly message (trace ++ second) := by
  intro event hmem
  rw [events_append] at hmem
  exact (List.mem_append.1 hmem).elim (h event) (hsecond event)

end Trace

theorem Run.events_each {ε α : Type} {work : α → Run ε Unit} {items : List α}
    (h : ∀ a ∈ items, (work a).trace.events = []) : (each work items).trace.events = [] := by
  have htraces : ∀ {some : List α}, (∀ a ∈ some, a ∈ items) → (traces work some).events = [] := by
    intro some hsome
    induction some with
    | nil => rfl
    | cons a rest ih =>
      have ha := h a (hsome a List.mem_cons_self)
      have hrest := ih fun b hb => hsome b (List.mem_cons_of_mem a hb)
      rw [traces, List.flatMap_cons, Trace.events_append, ha]
      exact hrest
  rcases forall_or_exists_first (fun a => (work a).outcome = .returned ()) items with
    hall | ⟨earlier, a, rest, rfl, hearlier, ha⟩
  · rw [each_of_returned hall]
    exact htraces fun _ => id
  · rw [each_of_stopped hearlier ha]
    refine htraces fun b hb => ?_
    rcases List.mem_append.1 hb with hb | hb
    · exact List.mem_append_left _ hb
    · simp [List.mem_singleton.1 hb]

namespace Condition

variable {V ε : Type}

@[simp] theorem events_evaluations (v : V) (condition : Condition V) :
    Trace.events (condition.evaluations v) = [] := by
  unfold evaluations
  cases condition.rule with
  | requires p => exact Predicate.events_tests v p
  | custom check => rfl

theorem events_demandTriggered [Describe V] (v : V) (condition : Condition V) :
    Trace.events (condition.demandTriggered v).trace = [] := by
  unfold demandTriggered
  rw [Predicate.eval_eq, Run.after_bind, Run.trace_after, Trace.events_append,
    Predicate.events_tests, List.nil_append]
  cases condition.trigger.verdict v with
  | error text => rfl
  | ok triggered =>
    cases triggered with
    | false => rfl
    | true =>
      change Trace.events (condition.demand v).trace = []
      rw [demand_eq]
      exact condition.events_evaluations v

theorem events_discards (v : V) (condition : Condition V) :
    Trace.events (condition.discards v : Run ε Bool).trace = [] := by
  cases hdiscard : condition.discard with
  | none => simp [discards, hdiscard, Trace.events]
  | some p => simp [discards, hdiscard, Predicate.eval_eq]

end Condition

namespace Modal

variable {V ε : Type}

/-- The log accounts for the two lists: what was pending and what was registered is activated or
still pending, and what was active and what is activated is discarded or still active. -/
structure Accounts (registered : String → Nat) (before after : Modal V) (trace : Trace) : Prop where
  pending : ∀ d, before.pendingDescriptions.count d + registered d =
    trace.activations d + after.pendingDescriptions.count d
  active : ∀ d, before.activeDescriptions.count d + trace.activations d =
    trace.discards d + after.activeDescriptions.count d

abbrev Balances (before after : Modal V) (trace : Trace) : Prop :=
  Accounts (fun _ => 0) before after trace

theorem balances_of_quiet {trace : Trace} (h : trace.events = []) {before after : Modal V}
    (hpending : after.pending = before.pending) (hactive : after.active = before.active) :
    Balances before after trace where
  pending d := by
    rw [Trace.activations_of_quiet h, Nat.zero_add, Nat.add_zero, pendingDescriptions,
      pendingDescriptions, hpending]
  active d := by
    rw [Trace.activations_of_quiet h, Trace.discards_of_quiet h, Nat.zero_add, Nat.add_zero,
      activeDescriptions, activeDescriptions, hactive]

theorem Accounts.trans {registered later : String → Nat} {before middle after : Modal V}
    {first second : Trace} (h : Accounts registered before middle first)
    (hnext : Accounts later middle after second) :
    Accounts (fun d => registered d + later d) before after (first ++ second) where
  pending d := by
    have hfirst := h.pending d
    have hsecond := hnext.pending d
    rw [Trace.activations_append]
    omega
  active d := by
    have hfirst := h.active d
    have hsecond := hnext.active d
    rw [Trace.activations_append, Trace.discards_append]
    omega

variable [Describe V]

theorem events_checkAll (v : V) (conditions : List (Condition V)) :
    Trace.events (checkAll v conditions).trace = [] := by
  rw [checkAll_eq_each]
  refine Run.events_each fun condition _ => ?_
  rw [Condition.demand_eq]
  exact condition.events_evaluations v

theorem events_checkTriggered (v : V) (conditions : List (Condition V)) :
    Trace.events (checkTriggered v conditions).trace = [] := by
  rw [checkTriggered_eq_each]
  exact Run.events_each fun condition _ => condition.events_demandTriggered v

/-- A release reports exactly what it drops, also where a discard predicate panics. -/
theorem sweep_log (v : V) (conditions : List (Condition V)) :
    (sweep v conditions : _ × Run ε Unit).2.trace.TellsOnly "condition discarded" ∧
      ∀ d, (conditions.map (·.description)).count d =
        (sweep v conditions : _ × Run ε Unit).2.trace.discards d +
          ((sweep v conditions : _ × Run ε Unit).1.map (·.description)).count d := by
  induction conditions with
  | nil => exact ⟨nofun, fun d => rfl⟩
  | cons condition rest ih =>
    obtain ⟨htells, hcount⟩ := ih
    have hquiet : Trace.events (condition.discards v : Run ε Bool).trace = [] :=
      condition.events_discards v
    have hquietTells := Trace.tellsOnly_of_quiet hquiet "condition discarded"
    rcases condition.discards_ends (ε := ε) v with ⟨_, ho⟩ | ⟨_, ho⟩ | ⟨text, _, ho⟩
    · -- The report comes before the rest of the list is looked at, and is not taken back.
      simp only [sweep, ho, Run.trace_after]
      refine ⟨(hquietTells.append ?_).append htells, fun d => ?_⟩
      · intro event hmem
        obtain rfl : event = .conditionDiscarded condition.description (describe v) := by
          simpa [Trace.events, Entry.event?] using hmem
        rfl
      · have hd := hcount d
        simp only [Trace.discards_append, Trace.discards_of_quiet hquiet, Trace.discards_discarded,
          List.map_cons, List.count_cons, List.count_nil]
        omega
    · simp only [sweep, ho, Run.trace_after]
      refine ⟨hquietTells.append htells, fun d => ?_⟩
      have hd := hcount d
      simp only [Trace.discards_append, Trace.discards_of_quiet hquiet, List.map_cons,
        List.count_cons]
      omega
    · simp only [sweep, ho]
      refine ⟨hquietTells, fun d => ?_⟩
      rw [Trace.discards_of_quiet hquiet, Nat.zero_add]

theorem sweepActive_log (v : V) (modal : Modal V) :
    (sweepActive v modal : _ × Run ε Unit).2.trace.TellsOnly "condition discarded" ∧
      Balances modal (sweepActive v modal : _ × Run ε Unit).1
        (sweepActive v modal : _ × Run ε Unit).2.trace := by
  obtain ⟨htells, hcount⟩ := sweep_log (ε := ε) v modal.active
  have hnone : ∀ d, Trace.activations d (sweepActive v modal : _ × Run ε Unit).2.trace = 0 :=
    htells.countP_eq_zero (by decide)
  refine ⟨htells, ?_, ?_⟩
  · intro d
    rw [hnone, Nat.zero_add, Nat.add_zero]
    rfl
  · intro d
    rw [hnone, Nat.add_zero]
    exact hcount d

/-- Activating reports exactly the conditions that are triggered. -/
theorem activate_log {v : V} {conditions : List (Condition V)}
    (h : ∀ c ∈ conditions, c.trigger.Holds v ∨ c.trigger.Fails v) (modal : Modal V) :
    (activate v conditions modal : _ × Run ε Unit).2.trace.TellsOnly "condition activated" ∧
      ∀ d, (activate v conditions modal : _ × Run ε Unit).2.trace.activations d =
        ((conditions.filter fun c => c.trigger.Holds v).map (·.description)).count d := by
  induction conditions generalizing modal with
  | nil => exact ⟨nofun, fun d => rfl⟩
  | cons condition rest ih =>
    have hrest := fun modal => ih (fun c hmem => h c (List.mem_cons_of_mem _ hmem)) modal
    have hquiet : Trace.events (condition.trigger.eval v : Run ε Bool).trace = [] := by
      rw [Predicate.eval_eq, Run.trace_after, Run.trace_call, List.append_nil]
      exact condition.trigger.events_tests v
    have hquietTells := Trace.tellsOnly_of_quiet hquiet "condition activated"
    rcases h condition List.mem_cons_self with ht | ht
    · have ho : (condition.trigger.eval v : Run ε Bool).outcome = .returned true := by
        simpa [Predicate.eval_eq] using Predicate.holds_iff.1 ht
      obtain ⟨htells, hcount⟩ := hrest { modal with active := modal.active ++ [condition] }
      rw [activate, Act.lift_bind_of_returned ho]
      simp only [if_true, Run.report, Act.lift_emit_bind, Act.modify_bind,
        Run.trace_after]
      refine ⟨hquietTells.append (Trace.TellsOnly.append ?_ htells), fun d => ?_⟩
      · intro event hmem
        obtain rfl : event = .conditionActivated condition.description (describe v) := by
          simpa [Trace.events, Entry.event?] using hmem
        rfl
      · have hd := hcount d
        simp only [Trace.activations_append, Trace.activations_of_quiet hquiet,
          Trace.activations_activated, List.filter_cons, ht, decide_true, if_true, List.map_cons,
          List.count_cons, List.count_nil]
        omega
    · have ho : (condition.trigger.eval v : Run ε Bool).outcome = .returned false := by
        simpa [Predicate.eval_eq] using Predicate.fails_iff.1 ht
      have hn : ¬ condition.trigger.Holds v := Predicate.not_holds_of_fails ht
      obtain ⟨htells, hcount⟩ := hrest { modal with pending := modal.pending ++ [condition] }
      rw [activate, Act.lift_bind_of_returned ho]
      simp only [Bool.false_eq_true, if_false, Act.modify_bind, Run.trace_after]
      refine ⟨hquietTells.append htells, fun d => ?_⟩
      have hd := hcount d
      rw [Trace.activations_append, Trace.activations_of_quiet hquiet, Nat.zero_add, hd]
      simp [hn]

/-- What is activated leaves the pending conditions for the active ones. -/
theorem activatePending_log {v : V} (modal : Modal V)
    (h : ∀ c ∈ modal.pending, c.trigger.Holds v ∨ c.trigger.Fails v) :
    (activatePending v modal : _ × Run ε Unit).2.trace.TellsOnly "condition activated" ∧
      Balances modal (activatePending v modal : _ × Run ε Unit).1
        (activatePending v modal : _ × Run ε Unit).2.trace := by
  have hact : (activatePending v modal : _ × Run ε Unit) =
      activate v modal.pending { modal with pending := [] } := rfl
  obtain ⟨htells, hcount⟩ := activate_log (ε := ε) h { modal with pending := [] }
  have hnone : ∀ d, Trace.discards d (activatePending v modal : _ × Run ε Unit).2.trace = 0 :=
    htells.countP_eq_zero (by decide)
  have hstate := (activatePending_ends (ε := ε) modal h).2
  refine ⟨htells, ?_, ?_⟩
  · intro d
    have hsplit := (List.filter_append_perm (fun c : Condition V => c.trigger.Holds v)
      modal.pending).map (·.description)
    have hsplitCount := hsplit.count_eq d
    rw [List.map_append, List.count_append] at hsplitCount
    rw [Nat.add_zero, hstate, hact, hcount, pendingDescriptions, pendingDescriptions,
      ← hsplitCount]
    simp
  · intro d
    rw [hnone, Nat.zero_add, hstate, hact, hcount, activeDescriptions, activeDescriptions]
    simp

/-- The log of an access to a modal value: it accounts for the two lists, tells what was discarded
before what was activated, and is empty if the access is refused. -/
structure Logs {α : Type} (before after : Modal V) (run : Run Violation α) : Prop
    extends Balances before after run.trace where
  discards_first : ∃ first second, run.trace = first ++ second ∧
    first.TellsOnly "condition discarded" ∧ second.TellsOnly "condition activated"
  quiet_of_refused : ∀ e, run.outcome = .refused e → run.trace.events = []

omit [Describe V] in
theorem logs_of_quiet {α : Type} {run : Run Violation α} (h : run.trace.events = [])
    {before after : Modal V} (hpending : after.pending = before.pending)
    (hactive : after.active = before.active) : Logs before after run where
  toAccounts := balances_of_quiet h hpending hactive
  discards_first := ⟨run.trace, [], (List.append_nil _).symm, Trace.tellsOnly_of_quiet h _, nofun⟩
  quiet_of_refused _ _ := h

omit [Describe V] in
/-- The checks that come before everything else are no events. -/
theorem Logs.after {α : Type} {before after : Modal V} {run : Run Violation α} {checks : Trace}
    (h : Logs before after run) (hchecks : checks.events = []) :
    Logs before after (run.after checks) where
  toAccounts := (balances_of_quiet hchecks rfl rfl).trans h.toAccounts
  discards_first := by
    obtain ⟨first, second, hsplit, hfirst, hsecond⟩ := h.discards_first
    refine ⟨checks ++ first, second, ?_, ?_, hsecond⟩
    · rw [Run.trace_after, hsplit, List.append_assoc]
    · exact (Trace.tellsOnly_of_quiet hchecks _).append hfirst
  quiet_of_refused e he := by
    rw [Run.trace_after, Trace.events_append, hchecks, h.quiet_of_refused e he]
    rfl

omit [Describe V] in
/-- An access that stops in its checks leaves the value as it was and logs nothing. -/
theorem logs_of_stopped {α β : Type} {checks : Run Violation α} (hquiet : checks.trace.events = [])
    (hstops : ∀ a, checks.outcome ≠ .returned a) (next : α → Act (Modal V) Violation β)
    (modal : Modal V) :
    Logs modal ((Act.lift checks >>= next) modal).1 ((Act.lift checks >>= next) modal).2 := by
  obtain ⟨hstate, htrace⟩ := Act.lift_bind_of_not_returned hstops next modal
  rw [← htrace] at hquiet
  exact logs_of_quiet hquiet (by rw [hstate]) (by rw [hstate])

def commit (v : V) : Act (Modal V) Violation Unit := do
  sweepActive v
  activatePending v
  Act.modify fun modal => { modal with value := v }

theorem commit_log (modal : Modal V) {v : V}
    (h : ∀ c ∈ modal.pending, c.trigger.Holds v ∨ c.trigger.Fails v) :
    Logs modal (commit v modal).1 (commit v modal).2 := by
  obtain ⟨hswept, hsweep⟩ := sweepActive_log (ε := Violation) v modal
  unfold commit
  rcases sweepActive_ends (ε := Violation) v modal with
    ⟨ho, hs⟩ | ⟨earlier, c, rest, text, _, _, ho, hs⟩
  · let swept : Modal V := (sweepActive v modal : _ × Run Violation Unit).1
    have hpending : ∀ c ∈ swept.pending, c.trigger.Holds v ∨ c.trigger.Fails v := h
    obtain ⟨hactivated, hactivate⟩ := activatePending_log (ε := Violation) swept hpending
    have hao := (activatePending_ends (ε := Violation) swept hpending).1
    rw [Act.bind_apply_of_returned ho, Act.bind_apply_of_returned hao]
    have htrace : ∀ done : Run Violation Unit, done.trace = [] →
        ((done.after (activatePending v swept : _ × Run Violation Unit).2.trace).after
          (sweepActive v modal : _ × Run Violation Unit).2.trace).trace =
            (sweepActive v modal : _ × Run Violation Unit).2.trace ++
              (activatePending v swept : _ × Run Violation Unit).2.trace := by
      intro done hdone
      simp [hdone]
    refine ⟨?_, ⟨_, _, htrace _ rfl, hswept, hactivated⟩, nofun⟩
    have hboth := hsweep.trans hactivate
    rw [htrace _ rfl]
    exact ⟨hboth.pending, hboth.active⟩
  · rw [Act.bind_apply_of_panicked ho]
    exact ⟨hsweep, ⟨_, [], (List.append_nil _).symm, hswept, nofun⟩, nofun⟩

theorem write_log (modal : Modal V) (v : V) :
    Logs modal (write v modal).1 (write v modal).2 := by
  have hactiveQuiet := events_checkAll v modal.active
  have hpendingQuiet := events_checkTriggered v modal.pending
  unfold write
  rw [Act.get_bind]
  by_cases hactive : (checkAll v modal.active).outcome = .returned ()
  · rw [Act.lift_bind_of_returned hactive]
    refine Logs.after ?_ hactiveQuiet
    by_cases hpending : (checkTriggered v modal.pending).outcome = .returned ()
    · rw [Act.lift_bind_of_returned hpending]
      have htriggered : ∀ c ∈ modal.pending, c.trigger.Holds v ∨ c.trigger.Fails v :=
        fun c hmem => (checkTriggered_of_returned hpending hmem).imp And.left id
      exact (commit_log modal htriggered).after hpendingQuiet
    · exact logs_of_stopped hpendingQuiet (fun _ => hpending) _ modal
  · exact logs_of_stopped hactiveQuiet (fun _ => hactive) _ modal

theorem read_log (modal : Modal V) : Logs modal (read modal).1 (read modal).2 := by
  have hquiet := events_checkAll modal.value modal.active
  obtain ⟨hswept, hsweep⟩ := sweepActive_log (ε := Violation) modal.value modal
  unfold read
  rw [Act.get_bind]
  by_cases hactive : (checkAll modal.value modal.active).outcome = .returned ()
  · rw [Act.lift_bind_of_returned hactive, Act.bind_pure_apply]
    refine Logs.after ⟨hsweep, ⟨_, [], (List.append_nil _).symm, hswept, nofun⟩, ?_⟩ hquiet
    -- A release is never refused.
    intro e he
    rcases sweepActive_ends (ε := Violation) modal.value modal with
      ⟨ho, _⟩ | ⟨earlier, c, rest, text, _, _, ho, _⟩
    · rw [ho] at he
      cases he
    · rw [ho] at he
      cases he
  · exact logs_of_stopped hquiet (fun _ => hactive) _ modal

/-! ## Runs of accesses -/

def Request.isAccess : Request V → Bool
  | .new .. => false
  | .write .. | .read _ | .attach _ | .showDebug _ | .describeCondition .. => true

def Request.registers (d : String) : Request V → Bool
  | .attach condition => condition.description = d
  | _ => false

omit [Describe V] in
theorem count_pending_attach (modal : Modal V) (condition : Condition V) (d : String) :
    (modal.attach condition).pendingDescriptions.count d =
      modal.pendingDescriptions.count d + if condition.description = d then 1 else 0 := by
  simp [pendingDescriptions, attach, List.count_singleton]

theorem attempt_log {request : Request V} (haccess : request.isAccess = true) (modal : Modal V) :
    ∃ final, (attempt request (some modal)).1 = some final ∧
      Accounts (fun d => if request.registers d then 1 else 0) modal final
        (attempt request (some modal)).2.trace := by
  cases request with
  | new value conditions => cases haccess
  | write form v =>
    rw [attempt_write_some]
    exact ⟨_, rfl, (write_log modal v).toAccounts⟩
  | read form =>
    rw [attempt_read_some]
    exact ⟨_, rfl, (read_log modal).toAccounts⟩
  | attach condition =>
    have hquiet : Trace.events [] = [] := rfl
    refine ⟨modal.attach condition, rfl, ?_, ?_⟩
    · intro d
      change _ = Trace.activations d [] + _
      rw [count_pending_attach, Trace.activations_of_quiet hquiet, Nat.zero_add]
      simp [Request.registers]
    · intro d
      change _ + Trace.activations d [] = Trace.discards d [] + _
      rw [Trace.activations_of_quiet hquiet, Trace.discards_of_quiet hquiet, Nat.zero_add]
      rfl
  | showDebug pretty => exact ⟨modal, rfl, balances_of_quiet rfl rfl rfl⟩
  | describeCondition condition pretty => exact ⟨modal, rfl, balances_of_quiet rfl rfl rfl⟩

/-- A refused attempt reports nothing. -/
theorem events_attempt_of_refused {request : Request V} {modal : Modal V} {e : Violation}
    (h : (attempt request (some modal)).2.outcome = .refused e) :
    (attempt request (some modal)).2.trace.events = [] := by
  cases request with
  | write form v =>
    rw [attempt_write_some] at h ⊢
    exact (write_log modal v).quiet_of_refused e (Outcome.map_eq_refused_iff.1 h)
  | read form =>
    rw [attempt_read_some] at h ⊢
    exact (read_log modal).quiet_of_refused e (Outcome.map_eq_refused_iff.1 h)
  | new | attach | showDebug | describeCondition => cases h

omit [Describe V] in
/-- Enforcing a violation adds nothing that the accounts are about. -/
theorem accounts_inForm {registered : String → Nat} {before after : Modal V} {α : Type}
    {run : Run Violation α} (h : Accounts registered before after run.trace) (mode : FailureMode)
    (form : Form) : Accounts registered before after (run.inForm mode form).trace := by
  rcases run.trace_inForm mode form with htrace | ⟨e, htrace⟩
  · rw [htrace]
    exact h
  · have htells : Trace.TellsOnly (Diagnosis.event e).message
        [.reported (Diagnosis.event e)] := by
      intro event hmem
      obtain rfl : event = Diagnosis.event e := by
        simpa [Trace.events, Entry.event?] using hmem
      rfl
    have hactivations : ∀ d, Trace.activations d [.reported (Diagnosis.event e)] = 0 :=
      htells.countP_eq_zero (Diagnosis.message_event_ne e (by decide))
    have hdiscards : ∀ d, Trace.discards d [.reported (Diagnosis.event e)] = 0 :=
      htells.countP_eq_zero (Diagnosis.message_event_ne e (by decide))
    rw [htrace]
    refine ⟨fun d => ?_, fun d => ?_⟩
    · rw [Trace.activations_append, hactivations, Nat.add_zero]
      exact h.pending d
    · rw [Trace.activations_append, Trace.discards_append, hactivations, hdiscards, Nat.add_zero,
        Nat.add_zero]
      exact h.active d

open Session

/-- The trace of all turns accounts for the two lists at their end. -/
theorem turns_log (mode : FailureMode) {requests : List (Request V)}
    (haccess : ∀ request ∈ requests, request.isAccess = true) (modal : Modal V) :
    let turns := turns (machine.step mode) (some modal) requests
    ∃ last, lastState (some modal) (turns.map Turn.report) = some last ∧
      Accounts (fun d => turns.countP fun turn => turn.request.registers d) modal last
        (turns.flatMap fun turn => turn.report.run.trace) := by
  induction requests generalizing modal with
  | nil => exact ⟨modal, rfl, balances_of_quiet rfl rfl rfl⟩
  | cons request rest ih =>
    obtain ⟨final, hfinal, hattempt⟩ := attempt_log (haccess request List.mem_cons_self) modal
    have hstate : (machine.step mode request (some modal)).1 = some final := hfinal
    have hstep : Accounts _ modal final (machine.step mode request (some modal)).2.trace :=
      accounts_inForm hattempt mode request.form
    intro turns
    have hturns : turns = ⟨request, some modal, ⟨(machine.step mode request (some modal)).2,
        some final⟩⟩ :: if (machine.step mode request (some modal)).2.outcome.isAborted then [] else
          Session.turns (machine.step mode) (some final) rest := by
      rw [← hstate]
      rfl
    rw [hturns]
    split
    · refine ⟨final, rfl, ?_⟩
      simpa using hstep
    · obtain ⟨last, hlast, hrest⟩ :=
        ih (fun other hmem => haccess other (List.mem_cons_of_mem request hmem)) final
      refine ⟨last, hlast, ?_⟩
      have hboth := hstep.trans hrest
      rw [List.flatMap_cons]
      refine ⟨fun d => ?_, hboth.active⟩
      have hpending := hboth.pending d
      rw [List.countP_cons]
      dsimp only at hpending ⊢
      omega

def registered (conditions : List (Condition V))
    (turns : List (Turn (Option (Modal V)) (Request V) Violation (Option (Reply V)))) (d : String) :
    Nat :=
  (conditions.map (·.description)).count d + turns.countP fun turn => turn.request.registers d

/-- What a write reports as discarded, it reports before everything that it reports as activated. -/
theorem discards_before_activations (modal : Modal V) (form : Form) (v : V) :
    (attempt (.write form v) (some modal)).2.trace.events.Pairwise fun earlier later =>
      earlier.message = "condition activated" → later.message ≠ "condition discarded" := by
  obtain ⟨first, second, hsplit, hfirst, hsecond⟩ := (write_log modal v).discards_first
  rw [attempt_write_some, hsplit, Trace.events_append, List.pairwise_append]
  refine ⟨?_, ?_, ?_⟩
  · refine List.pairwise_of_forall_mem_list fun earlier hmem later _ hactivated => ?_
    rw [hfirst earlier hmem] at hactivated
    exact absurd hactivated (by decide)
  · refine List.pairwise_of_forall_mem_list fun earlier _ later hmem _ => ?_
    rw [hsecond later hmem]
    decide
  · intro earlier hmem later _ hactivated
    rw [hfirst earlier hmem] at hactivated
    exact absurd hactivated (by decide)

/-- Neither form of a refused access reports an activation or a discard. -/
theorem message_ne_of_refused {mode : FailureMode} {request : Request V} {modal : Modal V}
    {e : Violation} (h : (machine.attempt request (some modal)).2.outcome = .refused e)
    {event : Event} (hmem : event ∈ (machine.step mode request (some modal)).2.trace.events) :
    event.message ≠ "condition activated" ∧ event.message ≠ "condition discarded" := by
  have hquiet : (machine.attempt request (some modal)).2.trace.events = [] :=
    events_attempt_of_refused h
  unfold Machine.step at hmem
  rw [Act.inForm_snd] at hmem
  rcases (machine.attempt request (some modal)).2.trace_inForm mode (machine.form request) with
    htrace | ⟨enforced, htrace⟩
  · rw [htrace, hquiet] at hmem
    cases hmem
  · rw [htrace, Trace.events_append, hquiet] at hmem
    obtain rfl : event = Diagnosis.event enforced := by
      simpa [Trace.events, Entry.event?] using hmem
    exact ⟨Diagnosis.message_event_ne enforced (by decide),
      Diagnosis.message_event_ne enforced (by decide)⟩

/-- The log of any accesses to a modal value, in any forms and however they end, gives back its two
lists: for every description, what was registered and not activated is pending, and what was
activated and not discarded is active. A refused access reports neither, and an accepted write
reports what it discarded before what it activated. -/
theorem log_accounts_for_conditions (mode : FailureMode) (value : V)
    (conditions : List (Condition V)) {requests : List (Request V)}
    (haccess : ∀ request ∈ requests, request.isAccess = true) :
    let start := some (Modal.new value conditions)
    let turns := turns (machine.step mode) start requests
    let log : Trace := turns.flatMap fun turn => turn.report.run.trace
    (∃ modal, lastState start (turns.map Turn.report) = some modal ∧
      ∀ d, registered conditions turns d = log.activations d + modal.pendingDescriptions.count d ∧
        log.activations d = log.discards d + modal.activeDescriptions.count d) ∧
    (∀ turn ∈ turns, ∀ e, (machine.attempt turn.request turn.before).2.outcome = .refused e →
      ∀ event ∈ turn.report.run.trace.events,
        event.message ≠ "condition activated" ∧ event.message ≠ "condition discarded") ∧
    ∀ turn ∈ turns, ∀ form v, turn.request = .write form v →
      turn.report.run.outcome = .returned (some .done) →
        turn.report.run.trace.events.Pairwise fun earlier later =>
          earlier.message = "condition activated" → later.message ≠ "condition discarded" := by
  intro start turns log
  have hchained : Chained (machine.step mode) start turns := chained_turns _ _
  have hbefore : ∀ turn ∈ turns, ∃ modal, turn.before = some modal := by
    refine fun turn => hchained.before_of_mem (motive := fun s => ∃ modal, s = some modal) ?_
      ⟨_, rfl⟩
    rintro request s ⟨modal, rfl⟩
    by_cases hrequest : request.isAccess = true
    · obtain ⟨final, hfinal, -⟩ := attempt_log hrequest modal
      exact ⟨final, hfinal⟩
    · cases request with
      | new value conditions => exact ⟨_, rfl⟩
      | _ => exact absurd rfl hrequest
  refine ⟨?_, ?_, ?_⟩
  · obtain ⟨modal, hlast, haccounts⟩ := turns_log mode haccess (Modal.new value conditions)
    refine ⟨modal, hlast, fun d => ⟨haccounts.pending d, ?_⟩⟩
    have hactive := haccounts.active d
    rwa [activeDescriptions, Modal.new, List.map_nil, List.count_nil, Nat.zero_add] at hactive
  · intro turn hmem e hrefused event hevent
    obtain ⟨modal, hmodal⟩ := hbefore turn hmem
    rw [hchained.report_of_mem hmem, hmodal] at hevent
    rw [hmodal] at hrefused
    exact message_ne_of_refused hrefused hevent
  · intro turn hmem form v hrequest haccepted
    obtain ⟨modal, hmodal⟩ := hbefore turn hmem
    rw [hchained.report_of_mem hmem, hmodal, hrequest] at haccepted ⊢
    have hreturned := (machine.step_returned_iff mode (.write form v) (some modal) _).1 haccepted
    rw [machine.step_eq_attempt mode (by simp [hreturned])]
    exact discards_before_activations modal form v

def started : Predicate String := .named "started" fun phase => .ok (phase == "started")

def failed : Predicate String := .named "failed" fun phase => .ok (phase == "failed")

def brief : Condition String :=
  (Condition.ofRequirement "brief" started (.negate failed)).retireWhen
    (.named "blank" fun phase => .ok (phase == ""))

/-- Its discard panics where `brief` retires. -/
def held : Condition String :=
  (Condition.ofRequirement "held" started (.negate failed)).retireWhen
    (.named "stopped" fun phase =>
      if phase = "" then .error "no phase" else .ok (phase == "stopped"))

def phases : List (Request String) :=
  [.write .checked "started", .attach held, .write .checked "failed", .write .failFast "failed",
    .write .checked "", .read .failFast]

/-- The last write is interrupted when it has released one of three active conditions. -/
theorem log_accounts_for_interrupted_release :
    let start := some (Modal.new "idle" [brief, held, held])
    let final : Modal String := ⟨"started", [held], [held, held]⟩
    let turns := turns (machine.step .panic) start phases
    let log : Trace := turns.flatMap fun turn => turn.report.run.trace
    (∀ request ∈ phases, request.isAccess = true) ∧
      lastState start (turns.map Turn.report) = some final ∧
      registered [brief, held, held] turns "held" = log.activations "held" + 1 ∧
      log.activations "held" = log.discards "held" + 2 ∧
      log.activations "brief" = log.discards "brief" := by
  intro start final turns log
  have haccess : ∀ request ∈ phases, request.isAccess = true := by decide
  have hphases : lastState start (turns.map Turn.report) = some final := rfl
  obtain ⟨⟨modal, hlast, hcounts⟩, -, -⟩ :=
    log_accounts_for_conditions .panic "idle" [brief, held, held] haccess
  obtain rfl : final = modal := Option.some.inj (hphases.symm.trans hlast)
  have hlog : ∀ d, registered [brief, held, held] turns d =
        log.activations d + final.pendingDescriptions.count d ∧
      log.activations d = log.discards d + final.activeDescriptions.count d := hcounts
  -- From here on the log is any log that accounts for these lists.
  clear_value log turns
  have hpending : final.pendingDescriptions.count "held" = 1 := by decide
  have hactive : final.activeDescriptions.count "held" = 2 := by decide
  have hbrief : final.activeDescriptions.count "brief" = 0 := by decide
  obtain ⟨hregistered, hactivated⟩ := hlog "held"
  obtain ⟨-, hreleased⟩ := hlog "brief"
  rw [hpending] at hregistered
  rw [hactive] at hactivated
  rw [hbrief] at hreleased
  exact ⟨haccess, hphases, hregistered, hactivated, hreleased⟩

end Modal
end RuntimeContracts

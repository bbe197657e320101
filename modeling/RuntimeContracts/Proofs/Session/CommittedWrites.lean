import RuntimeContracts.Proofs.Automaton.Writes
import RuntimeContracts.Proofs.Constrained.Commits
import RuntimeContracts.Proofs.Linear.Sequence
import RuntimeContracts.Proofs.Run.Traced
import RuntimeContracts.Proofs.Session.Erasure

/-!
# Which writes are traced

Every accepted write to a constrained or a stateful value is traced exactly once, and a write that
is refused or interrupted is not. On a linear value that holds while its sequence lasts. An inexact
one takes any write past the end, and traces none of them.
-/

namespace RuntimeContracts

open Session (Turn turns forall_mem_turns)

structure TracesExactly {σ ρ ε α : Type} (counts : Turn σ ρ ε α → Bool)
    (session : List (Turn σ ρ ε α)) : Prop where
  each : ∀ turn ∈ session,
    turn.report.run.trace.traced.length = if counts turn then 1 else 0
  total : (session.flatMap fun turn => turn.report.run.trace.traced).length = session.countP counts

theorem tracesExactly_of_each {σ ρ ε α : Type} {counts : Turn σ ρ ε α → Bool}
    {session : List (Turn σ ρ ε α)} (h : ∀ turn ∈ session,
      turn.report.run.trace.traced.length = if counts turn then 1 else 0) :
    TracesExactly counts session := by
  refine ⟨h, ?_⟩
  induction session with
  | nil => rfl
  | cons turn rest ih =>
    have hturn := h turn List.mem_cons_self
    have hrest := ih fun other hmem => h other (List.mem_cons_of_mem turn hmem)
    rw [List.flatMap_cons, List.length_append, List.countP_cons, hturn, hrest, Nat.add_comm]

namespace Predicate

variable {V ε : Type}

theorem untraced_eval (v : V) (p : Predicate V) : (p.eval v : Run ε Bool).Untraced := by
  rw [eval_eq, Run.Untraced, Run.trace_after, Run.trace_call, List.append_nil]
  exact p.traced_tests v

theorem untraced_firstFailing (ps : List (Predicate V)) (v : V) :
    (firstFailing ps v : Run ε (Option (Nat × Predicate V))).Untraced := by
  obtain ⟨trace, found, h⟩ := exists_searched v ps
  rw [firstFailing_eq_of_searched h, Run.Untraced, Run.trace_after, Run.trace_call, List.append_nil,
    Trace.traced, events_of_searched h, List.filter_nil]

end Predicate

namespace Constrained

variable {V : Type} [Describe V]

theorem tracedOnce_write (guarded : Constrained V) (v : V) : (guarded.write v).TracedOnce := by
  refine (Predicate.untraced_firstFailing guarded.constraints v).bind_tracedOnce fun found => ?_
  rcases found with _ | ⟨index, p⟩
  · exact Run.tracedOnce_report rfl _
  · exact Run.tracedOnce_refuse _

theorem step_write (mode : FailureMode) (form : Form) (v : V) (guarded : Constrained V) :
    (machine.step mode (.write form v) (some guarded)).2.TracedOnce ∧
      ∃ after, (machine.step mode (.write form v) (some guarded)).1 = some after := by
  have hattempt := attempt_write_some form v guarded
  constructor
  · have hrun : (machine.step mode (.write form v) (some guarded)).2 =
        (attempt (.write form v) (some guarded)).2.inForm mode form := rfl
    rw [hrun, hattempt]
    exact ((guarded.tracedOnce_write v).map _).inForm mode form
  · change ∃ after, (attempt (.write form v) (some guarded)).1 = some after
    rw [hattempt]
    cases (guarded.write v).outcome.value? <;> exact ⟨_, rfl⟩

theorem tracesExactly_writes (mode : FailureMode) (guarded : Constrained V)
    (writes : List (Form × V)) :
    TracesExactly Turn.accepted
      (turns (machine.step mode) (some guarded) (writeRequests writes)) := by
  apply tracesExactly_of_each
  refine forall_mem_turns (P := fun s => ∃ guarded, s = some guarded) ?_ ⟨guarded, rfl⟩
  rintro request hmem _ ⟨guarded, rfl⟩
  obtain ⟨⟨form, v⟩, -, rfl⟩ := List.mem_map.1 hmem
  exact step_write mode form v guarded

end Constrained

namespace Linear

variable {V : Type} [Describe V]

/-- A write past the end is the only one that is accepted and not traced. -/
theorem tracedOnce_write {linear : Linear V}
    (h : linear.remaining ≠ [] ∨ linear.strictness = .exact) (v : V) :
    (linear.write v).TracedOnce := by
  unfold write
  cases hqueue : linear.remaining with
  | nil =>
    have hexact : linear.strictness = .exact := h.resolve_left fun hne => hne hqueue
    rw [hexact]
    exact Run.tracedOnce_refuse _
  | cons head rest =>
    refine (head.untraced_eval v).bind_tracedOnce fun accepted => ?_
    cases accepted with
    | true => exact Run.tracedOnce_report rfl _
    | false => exact Run.tracedOnce_refuse _

theorem untraced_write {linear : Linear V} (h : linear.remaining = []) (v : V) :
    (linear.write v).Untraced := by
  unfold write
  rw [h]
  cases linear.strictness <;> rfl

def hasNext : Option (Linear V) → Bool
  | some linear => !linear.isExhausted
  | none => false

theorem step_write (mode : FailureMode) (form : Form) (v : V) (linear : Linear V) :
    let step := machine.step mode (.write form v) (some linear)
    (linear.remaining ≠ [] ∨ linear.strictness = .exact → step.2.TracedOnce) ∧
      (linear.remaining = [] → step.2.Untraced) ∧
      ∃ after, step.1 = some after ∧ after.strictness = linear.strictness := by
  intro step
  have hattempt := attempt_write_some form v linear
  have hrun : step.2 = (attempt (.write form v) (some linear)).2.inForm mode form := rfl
  have hstate : step.1 = (attempt (.write form v) (some linear)).1 := rfl
  rw [hrun, hstate, hattempt]
  refine ⟨fun h => ((tracedOnce_write h v).map _).inForm mode form, fun h => ?_, ?_⟩
  · rw [Run.Untraced, Run.traced_inForm]
    exact untraced_write h v
  · have hends := write_ends linear v
    generalize linear.write v = run at hends
    cases hends <;> exact ⟨_, rfl, rfl⟩

theorem tracesExactly_writes (mode : FailureMode) (linear : Linear V)
    (writes : List (Form × V)) :
    TracesExactly (fun turn => turn.accepted && hasNext turn.before)
      (turns (machine.step mode) (some linear) (writeRequests writes)) := by
  apply tracesExactly_of_each
  refine forall_mem_turns (P := fun s => ∃ linear, s = some linear) ?_ ⟨linear, rfl⟩
  rintro request hmem _ ⟨linear, rfl⟩
  obtain ⟨⟨form, v⟩, -, rfl⟩ := List.mem_map.1 hmem
  obtain ⟨honce, hquiet, after, hafter, -⟩ := step_write mode form v linear
  refine ⟨?_, after, hafter⟩
  by_cases hqueue : linear.remaining = []
  · have hend : hasNext (some linear) = false := by simp [hasNext, isExhausted, hqueue]
    have htraced := hquiet hqueue
    rw [Run.Untraced] at htraced
    simp [hend, htraced]
  · have hnext : hasNext (some linear) = true := by simp [hasNext, isExhausted, hqueue]
    simp only [hnext, Bool.and_true]
    exact honce (.inl hqueue)

theorem tracesExactly_exact_writes (mode : FailureMode) {linear : Linear V}
    (h : linear.strictness = .exact) (writes : List (Form × V)) :
    TracesExactly Turn.accepted
      (turns (machine.step mode) (some linear) (writeRequests writes)) := by
  apply tracesExactly_of_each
  refine forall_mem_turns (P := fun s => ∃ linear, s = some linear ∧ linear.strictness = .exact) ?_
    ⟨linear, rfl, h⟩
  rintro request hmem _ ⟨linear, rfl, hexact⟩
  obtain ⟨⟨form, v⟩, -, rfl⟩ := List.mem_map.1 hmem
  obtain ⟨honce, -, after, hafter, hsame⟩ := step_write mode form v linear
  exact ⟨honce (.inr hexact), after, hafter, hsame.trans hexact⟩

end Linear

namespace TransitionGraph

variable {V ε : Type}

theorem untraced_node (graph : TransitionGraph V) (id : StateHandle) :
    (graph.node id : Run ε (State V)).Untraced := by
  unfold node State.nth
  cases graph.states[id.index]? <;> rfl

theorem untraced_nodes (graph : TransitionGraph V) (ids : List StateHandle) :
    (graph.nodes ids : Run ε (List (State V))).Untraced := by
  induction ids with
  | nil => exact Run.untraced_pure []
  | cons id rest ih =>
    exact (graph.untraced_node id).bind fun state => ih.bind fun others => Run.untraced_pure _

theorem untraced_accepting (graph : TransitionGraph V) (v : V) (ids : List StateHandle) :
    (graph.accepting v ids : Run ε (List StateHandle)).Untraced := by
  induction ids with
  | nil => exact Run.untraced_pure []
  | cons id rest ih =>
    exact (graph.untraced_node id).bind fun state =>
      (Predicate.untraced_eval v _).bind fun accepted => ih.bind fun others => Run.untraced_pure _

end TransitionGraph

namespace Stateful

variable {V : Type} [Describe V]

theorem tracedOnce_write (stateful : Stateful V) (v : V) : (stateful.write v).TracedOnce := by
  refine (stateful.graph.untraced_node _).bind_tracedOnce fun source =>
    (stateful.graph.untraced_accepting v _).bind_tracedOnce fun matching => ?_
  match matching with
  | [] => exact Run.tracedOnce_refuse _
  | [next] =>
    exact (stateful.graph.untraced_node next).bind_tracedOnce fun target =>
      Run.tracedOnce_report rfl _
  | first :: second :: others =>
    exact (stateful.graph.untraced_nodes _).bind_tracedOnce fun candidates =>
      Run.tracedOnce_refuse _

theorem tracesExactly_writes (mode : FailureMode) (stateful : Stateful V)
    (writes : List (Form × V)) :
    TracesExactly Turn.accepted (turns (machine.step mode) stateful writes) := by
  apply tracesExactly_of_each
  refine forall_mem_turns (P := fun _ => True) ?_ trivial
  rintro request - stateful -
  refine ⟨?_, trivial⟩
  have hrun : (machine.step mode request stateful).2 =
      (machine.attempt request stateful).2.inForm mode request.1 := rfl
  rw [hrun, attempt_eq]
  exact ((stateful.tracedOnce_write request.2).map _).inForm mode request.1

end Stateful

/-- In a run of writes in any forms, however they end, each accepted write is traced once, and the
others are not traced: on a constrained value, on a stateful value and on an exact linear value.
On any linear value that holds of the writes made before the end of the sequence, and none of those
made past the end is traced. -/
theorem accepted_writes_traced_up_to_end {V : Type} [Describe V] (mode : FailureMode)
    (writes : List (Form × V)) :
    (∀ guarded : Constrained V, TracesExactly Turn.accepted
      (turns (Constrained.machine.step mode) (some guarded)
        (Constrained.writeRequests writes))) ∧
    (∀ stateful : Stateful V,
      TracesExactly Turn.accepted (turns (Stateful.machine.step mode) stateful writes)) ∧
    ∀ linear : Linear V,
      let session := turns (Linear.machine.step mode) (some linear) (Linear.writeRequests writes)
      TracesExactly (fun turn => turn.accepted && Linear.hasNext turn.before) session ∧
        (linear.strictness = .exact → TracesExactly Turn.accepted session) := by
  refine ⟨fun guarded => guarded.tracesExactly_writes mode writes,
    fun stateful => stateful.tracesExactly_writes mode writes, fun linear => ⟨?_, fun h => ?_⟩⟩
  · exact linear.tracesExactly_writes mode writes
  · exact Linear.tracesExactly_exact_writes mode h writes

/-- Of two accepted writes, the one past the end of an inexact sequence is not traced. -/
theorem write_past_end_is_not_traced :
    let anything : Predicate String := .named "any" fun _ => .ok true
    let session := turns (Linear.machine.step .panic)
      (some (Linear.new "zero" .inexact [anything]))
      (Linear.writeRequests [(.checked, "one"), (.checked, "two")])
    session.countP Turn.accepted = 2 ∧
      (session.flatMap fun turn => turn.report.run.trace.traced) = [.stepCommitted 0 "\"one\""] ∧
      ¬ TracesExactly Turn.accepted session := by
  intro anything session
  have haccepted : session.countP Turn.accepted = 2 := by decide +kernel
  have htraced : (session.flatMap fun turn => turn.report.run.trace.traced) =
      [.stepCommitted 0 "\"one\""] := by
    decide +kernel
  refine ⟨haccepted, htraced, fun h => ?_⟩
  have htotal := h.total
  rw [htraced, haccepted] at htotal
  cases htotal

end RuntimeContracts

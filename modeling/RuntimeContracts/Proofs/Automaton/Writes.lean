import RuntimeContracts.Proofs.Automaton.Access
import RuntimeContracts.Proofs.Session.Answered

/-!
# Runs of writes

A stateful value that was created on a coherent graph is settled: its current state is one of the
graph, and accepts the stored value. It stays settled through any run of writes, whether they are
accepted, refused or interrupted.
-/

namespace RuntimeContracts.Stateful

variable {V : Type} {stateful : Stateful V}

structure Settled (stateful : Stateful V) : Prop where
  coherent : stateful.graph.Coherent
  accepts : stateful.graph.Accepts stateful.current stateful.value

theorem Settled.exists_source (h : stateful.Settled) :
    ∃ source, stateful.graph.state? stateful.current = some source := by
  obtain ⟨source, hsource, _⟩ := h.accepts
  exact ⟨source, hsource⟩

theorem currentName?_of_state? {source : State V}
    (h : stateful.graph.state? stateful.current = some source) :
    stateful.currentName? = some source.name := by
  rw [currentName?, (TransitionGraph.getElem?_of_state? h).2]
  rfl

variable [Describe V]

theorem create_returned {graph : TransitionGraph V} {initial : State V}
    (hinitial : graph.state? graph.initial = some initial) {v : V}
    (h : (create v graph).outcome = .returned stateful) :
    stateful = ⟨v, graph.initial, graph⟩ ∧ graph.Accepts graph.initial v := by
  rw [create_eq hinitial] at h
  match hverdict : initial.predicate.verdict v with
  | .ok true =>
    rw [hverdict] at h
    cases h
    exact ⟨rfl, initial, hinitial, Predicate.holds_iff.2 hverdict⟩
  | .ok false =>
    rw [hverdict] at h
    cases h
  | .error text =>
    rw [hverdict] at h
    cases h

/-- A stateful value starts settled, if the initial handle of its graph is one of the graph. -/
theorem start_of_create {graph : TransitionGraph V} (hgraph : graph.Coherent)
    (hinitial : graph.initial.graph = graph.id ∧ graph.initial.index < graph.states.length) {v : V}
    (h : (create v graph).outcome = .returned stateful) :
    stateful = ⟨v, graph.initial, graph⟩ ∧ stateful.Settled := by
  obtain ⟨state, hstate⟩ := TransitionGraph.exists_state?_of_owned hinitial
  obtain ⟨rfl, haccepts⟩ := create_returned hstate h
  exact ⟨rfl, hgraph, haccepts⟩

/-- An accepted write moves to the only successor that accepts the candidate. -/
theorem Settled.write_returned (h : stateful.Settled) {v : V} {written : Stateful V}
    (hwrite : (stateful.write v).outcome = .returned written) :
    ∃ source next, stateful.graph.state? stateful.current = some source ∧
      source.successors.filter (stateful.graph.Accepts · v) = [next] ∧
      written = { stateful with value := v, current := next } := by
  obtain ⟨source, hsource⟩ := h.exists_source
  have hends := write_ends h.coherent hsource v
  generalize stateful.write v = run at hends hwrite
  cases hends with
  | moved honly htarget =>
    cases hwrite
    exact ⟨source, _, hsource, honly, rfl⟩
  | unmatched hnone => cases hwrite
  | ambiguous hseveral hcandidates => cases hwrite
  | interrupted hsplit hstate hpanics => cases hwrite

theorem Settled.write (h : stateful.Settled) {v : V} {written : Stateful V}
    (hwrite : (stateful.write v).outcome = .returned written) : written.Settled := by
  obtain ⟨source, next, _, honly, rfl⟩ := h.write_returned hwrite
  have hmem : next ∈ source.successors.filter (stateful.graph.Accepts · v) := by simp [honly]
  exact ⟨h.coherent, of_decide_eq_true (List.mem_filter.1 hmem).2⟩

def machine : Machine (Stateful V) (Form × V) Violation Unit where
  attempt request := do
    let written ← Act.lift ((← Act.get).write request.2)
    Act.set written
    return some ()
  form := Prod.fst

theorem attempt_eq (request : Form × V) (stateful : Stateful V) :
    machine.attempt request stateful = ((stateful.write request.2).outcome.value?.getD stateful,
      ⟨(stateful.write request.2).trace,
        (stateful.write request.2).outcome.map fun _ => some ()⟩) := by
  change (Act.lift (stateful.write request.2) >>= fun written =>
    Act.set written >>= fun _ => pure (some ())) stateful = _
  cases ho : (stateful.write request.2).outcome with
  | returned written =>
    rw [Act.lift_bind_of_returned ho]
    simp [Outcome.value?, Outcome.map, Run.after]
  | refused e =>
    rw [Act.lift_bind_of_refused ho]
    rfl
  | panicked text =>
    rw [Act.lift_bind_of_panicked ho]
    rfl
  | aborted text =>
    have hact : (Act.lift (stateful.write request.2) stateful).2.outcome = .aborted text := ho
    rw [Act.bind_apply_of_aborted hact]
    rfl

/-- A write either replaces the stateful value by the written one, or leaves it as it was. -/
theorem step_ends (mode : FailureMode) (request : Form × V) (stateful : Stateful V) :
    (∃ written, (stateful.write request.2).outcome = .returned written ∧
        (machine.step mode request stateful).1 = written ∧
        (machine.step mode request stateful).2.outcome = .returned (some ())) ∨
      ((∀ written, (stateful.write request.2).outcome ≠ .returned written) ∧
        (machine.step mode request stateful).1 = stateful ∧
        ∀ answer, (machine.step mode request stateful).2.outcome ≠ .returned answer) := by
  simp only [Ne, Machine.step_returned_iff, Machine.step_fst, machine, Act.get_bind]
  rcases Act.lift_bind_ends (stateful.write request.2)
      (fun written => do Act.set written; return some ()) stateful with
    ⟨written, ho, hact⟩ | ⟨hnone, hstate, hstopped⟩
  · rw [hact]
    exact .inl ⟨written, ho, rfl, rfl⟩
  · exact .inr ⟨hnone, hstate, hstopped⟩

theorem Settled.finalState (h : stateful.Settled) (mode : FailureMode)
    (writes : List (Form × V)) :
    (Session.finalState (machine.step mode) stateful writes).Settled ∧
      (Session.finalState (machine.step mode) stateful writes).graph = stateful.graph := by
  refine Session.finalState_induction
    (motive := fun s : Stateful V => s.Settled ∧ s.graph = stateful.graph) ?_ ⟨h, rfl⟩ writes
  rintro request s ⟨hs, hgraph⟩
  rcases step_ends mode request s with ⟨written, hwrite, hstep, _⟩ | ⟨_, hstep, _⟩
  · rw [hstep]
    exact ⟨hs.write hwrite, (graph_of_write hwrite).trans hgraph⟩
  · rw [hstep]
    exact ⟨hs, hgraph⟩

end RuntimeContracts.Stateful

import RuntimeContracts.Automaton.Stateful
import RuntimeContracts.Proofs.Automaton.Coherence
import RuntimeContracts.Proofs.Predicate.Verdict
import RuntimeContracts.Proofs.Run.Stopping

/-!
# How accesses to graphs and stateful values end

In a coherent graph every handle that is followed leads to a state. A write to a stateful value
therefore tests all successors of the current state in order, and how it ends depends on how many of
them accept the candidate. `write_ends` says everything that a write can do.
-/

namespace RuntimeContracts

namespace TransitionGraph

variable {V ε : Type} {graph : TransitionGraph V}

def Coherent (graph : TransitionGraph V) : Prop :=
  Arena.Coherent graph.id graph.states graph.index

def Accepts (graph : TransitionGraph V) (id : StateHandle) (v : V) : Prop :=
  ∃ state, graph.state? id = some state ∧ state.predicate.Holds v

instance (graph : TransitionGraph V) (id : StateHandle) (v : V) : Decidable (graph.Accepts id v) :=
  match h : graph.state? id with
  | none => isFalse (by simp [Accepts, h])
  | some state => decidable_of_iff (state.predicate.Holds v) (by simp [Accepts, h])

theorem accepts_iff {id : StateHandle} {state : State V} (h : graph.state? id = some state)
    (v : V) : graph.Accepts id v ↔ state.predicate.Holds v := by
  simp [Accepts, h]

theorem exists_state?_of_owned {id : StateHandle}
    (h : id.graph = graph.id ∧ id.index < graph.states.length) :
    ∃ state, graph.state? id = some state := by
  refine ⟨graph.states.get ⟨id.index, h.2⟩, ?_⟩
  rw [state?, if_pos h.1]
  exact List.getElem?_eq_getElem h.2

theorem getElem?_of_state? {id : StateHandle} {state : State V}
    (h : graph.state? id = some state) :
    id.graph = graph.id ∧ graph.states[id.index]? = some state := by
  unfold state? at h
  split at h
  · next hgraph => exact ⟨hgraph, h⟩
  · cases h

theorem node_of_state? {id : StateHandle} {state : State V} (h : graph.state? id = some state) :
    (graph.node id : Run ε (State V)) = pure state := by
  rw [node, State.nth, (getElem?_of_state? h).2]

/-- Each successor of a state of a coherent graph is a state of the graph. -/
theorem Coherent.exists_successor (h : graph.Coherent) {source : StateHandle} {state : State V}
    (hstate : graph.state? source = some state) {id : StateHandle}
    (hid : id ∈ state.successors) : ∃ next, graph.state? id = some next := by
  have hmem := List.mem_of_getElem? (getElem?_of_state? hstate).2
  exact exists_state?_of_owned (h.successors_owned state hmem id hid)

theorem exists_states {ids : List StateHandle}
    (h : ∀ id ∈ ids, ∃ state, graph.state? id = some state) :
    ∃ states : List (State V), ids.map graph.state? = states.map some := by
  induction ids with
  | nil => exact ⟨[], rfl⟩
  | cons id rest ih =>
    obtain ⟨state, hstate⟩ := h id (by simp)
    obtain ⟨states, hstates⟩ := ih fun other hmem => h other (by simp [hmem])
    exact ⟨state :: states, by simp [hstate, hstates]⟩

theorem nodes_of_states {ids : List StateHandle} {states : List (State V)}
    (h : ids.map graph.state? = states.map some) :
    (graph.nodes ids : Run ε (List (State V))) = pure states := by
  induction ids generalizing states with
  | nil =>
    rw [List.map_nil, eq_comm, List.map_eq_nil_iff] at h
    rw [h, nodes]
  | cons id rest ih =>
    cases states with
    | nil => cases h
    | cons state others =>
      obtain ⟨hstate, hothers⟩ := List.cons.inj h
      rw [nodes, node_of_state? hstate, pure_bind, ih hothers]
      rfl

theorem statesAfter_of_coherent (h : graph.Coherent) (id : StateHandle) :
    ∃ states, (graph.statesAfter id : Run ε (List (State V))) = pure states := by
  unfold statesAfter
  cases hstate : graph.state? id with
  | none => exact ⟨[], rfl⟩
  | some state =>
    obtain ⟨states, hstates⟩ := exists_states fun _ => h.exists_successor hstate
    exact ⟨states, nodes_of_states hstates⟩

/-! ## Testing several states -/

def tests (graph : TransitionGraph V) (v : V) (id : StateHandle) : Trace :=
  match graph.state? id with
  | none => []
  | some state => state.predicate.tests v

/-- The handle names a state, whose predicate does not panic on the value. -/
def Answers (graph : TransitionGraph V) (v : V) (id : StateHandle) : Prop :=
  ∃ state, graph.state? id = some state ∧ (state.predicate.Holds v ∨ state.predicate.Fails v)

theorem accepting_append {v : V} {earlier : List StateHandle}
    (h : ∀ id ∈ earlier, graph.Answers v id) (rest : List StateHandle) :
    (graph.accepting v (earlier ++ rest) : Run ε (List StateHandle)) =
      (graph.accepting v rest >>= fun others =>
        pure (earlier.filter (graph.Accepts · v) ++ others)).after
          (earlier.flatMap (graph.tests v)) := by
  induction earlier with
  | nil => simp
  | cons id others ih =>
    obtain ⟨state, hstate, hverdict⟩ := h id (by simp)
    have hrest := ih fun other hmem => h other (by simp [hmem])
    rw [List.cons_append, accepting, node_of_state? hstate, pure_bind, State.accepts,
      Predicate.eval_eq, Run.after_bind, hrest]
    rcases hverdict with hholds | hfails
    · have haccepts : graph.Accepts id v := (accepts_iff hstate v).2 hholds
      rw [Predicate.holds_iff.1 hholds, Run.call_ok, pure_bind, Run.after_bind, bind_assoc]
      simp only [pure_bind, if_true, Run.after_after, List.flatMap_cons, List.filter_cons, haccepts,
        decide_true, List.cons_append, tests, hstate]
    · have hrejects : ¬ graph.Accepts id v :=
        mt (accepts_iff hstate v).1 (Predicate.not_holds_of_fails hfails)
      rw [Predicate.fails_iff.1 hfails, Run.call_ok, pure_bind, Run.after_bind, bind_assoc]
      simp only [pure_bind, Bool.false_eq_true, if_false, Run.after_after, List.flatMap_cons,
        List.filter_cons, hrejects, decide_false, tests, hstate]

/-- How testing several states goes: the tests performed, and what is found. -/
inductive Polled (graph : TransitionGraph V) (v : V) :
    List StateHandle → Trace → Client (List StateHandle) → Prop where
  | answered {ids : List StateHandle} (hall : ∀ id ∈ ids, graph.Answers v id) :
      Polled graph v ids (ids.flatMap (graph.tests v))
        (.ok (ids.filter (graph.Accepts · v)))
  | interrupted {earlier rest : List StateHandle} {id : StateHandle} {state : State V}
      {text : String} (hearlier : ∀ other ∈ earlier, graph.Answers v other)
      (hstate : graph.state? id = some state) (hpanics : state.predicate.PanicsWith v text) :
      Polled graph v (earlier ++ id :: rest) ((earlier ++ [id]).flatMap (graph.tests v))
        (.error text)

theorem exists_polled (v : V) {ids : List StateHandle}
    (h : ∀ id ∈ ids, ∃ state, graph.state? id = some state) :
    ∃ trace found, graph.Polled v ids trace found := by
  rcases forall_or_exists_first (graph.Answers v) ids with
    hall | ⟨earlier, id, rest, rfl, hearlier, hid⟩
  · exact ⟨_, _, .answered hall⟩
  · obtain ⟨state, hstate⟩ := h id (by simp)
    have hnot : ¬ state.predicate.Holds v := fun hholds => hid ⟨state, hstate, .inl hholds⟩
    rcases Predicate.fails_or_panicsWith hnot with hfails | ⟨text, hpanics⟩
    · exact absurd ⟨state, hstate, .inr hfails⟩ hid
    · exact ⟨_, _, .interrupted hearlier hstate hpanics⟩

theorem accepting_eq_of_polled {v : V} {ids : List StateHandle} {trace : Trace}
    {found : Client (List StateHandle)} (h : graph.Polled v ids trace found) :
    (graph.accepting v ids : Run ε (List StateHandle)) = (Run.call found).after trace := by
  cases h with
  | answered hall =>
    have happ := accepting_append (ε := ε) hall []
    simpa [accepting] using happ
  | @interrupted earlier rest id state text hearlier hstate hpanics =>
    rw [accepting_append hearlier, accepting, node_of_state? hstate, pure_bind, State.accepts,
      Predicate.eval_eq, Run.after_bind, Predicate.panicsWith_iff.1 hpanics, Run.call_error,
      Run.panic_bind, Run.after_bind, Run.panic_bind]
    simp [tests, hstate]

end TransitionGraph

namespace Stateful

variable {V : Type} [Describe V] {stateful : Stateful V}

inductive WriteEnd (stateful : Stateful V) (source : State V) (v : V) :
    Run Violation (Stateful V) → Prop where
  | moved {next : StateHandle} {target : State V}
      (honly : source.successors.filter (stateful.graph.Accepts · v) = [next])
      (htarget : stateful.graph.state? next = some target) :
      WriteEnd stateful source v
        ⟨source.successors.flatMap (stateful.graph.tests v) ++
            [.reported (.stateEntered source.name target.name)],
          .returned { stateful with value := v, current := next }⟩
  | unmatched (hnone : source.successors.filter (stateful.graph.Accepts · v) = []) :
      WriteEnd stateful source v
        ⟨source.successors.flatMap (stateful.graph.tests v),
          .refused (.noMatchingTransition source.name (describe v))⟩
  | ambiguous {candidates : List (State V)} (hseveral : 2 ≤ candidates.length)
      (hcandidates : (source.successors.filter (stateful.graph.Accepts · v)).map
        stateful.graph.state? = candidates.map some) :
      WriteEnd stateful source v
        ⟨source.successors.flatMap (stateful.graph.tests v),
          .refused (.ambiguousTransition source.name (candidates.map State.name) (describe v))⟩
  | interrupted {earlier rest : List StateHandle} {id : StateHandle} {state : State V}
      {text : String} (hsplit : source.successors = earlier ++ id :: rest)
      (hstate : stateful.graph.state? id = some state)
      (hpanics : state.predicate.PanicsWith v text) :
      WriteEnd stateful source v
        ⟨(earlier ++ [id]).flatMap (stateful.graph.tests v), .panicked text⟩

theorem write_ends (hgraph : stateful.graph.Coherent) {source : State V}
    (hsource : stateful.graph.state? stateful.current = some source) (v : V) :
    WriteEnd stateful source v (stateful.write v) := by
  have hsuccessors : ∀ id ∈ source.successors, ∃ next, stateful.graph.state? id = some next :=
    fun id => hgraph.exists_successor hsource
  obtain ⟨trace, found, hpolled⟩ := TransitionGraph.exists_polled v hsuccessors
  rw [write, currentState, TransitionGraph.node_of_state? hsource, pure_bind,
    TransitionGraph.accepting_eq_of_polled hpolled, Run.after_bind]
  generalize hids : source.successors = ids at hpolled
  cases hpolled with
  | interrupted hearlier hstate hpanics =>
    have hend : WriteEnd stateful source v _ := .interrupted hids hstate hpanics
    simpa [Run.panic] using hend
  | answered hall =>
    subst hids
    have haccepting : ∀ id ∈ source.successors.filter (stateful.graph.Accepts · v),
        ∃ next, stateful.graph.state? id = some next :=
      fun id hmem => hsuccessors id (List.mem_filter.1 hmem).1
    rw [Run.call_ok, pure_bind]
    match hmatches : source.successors.filter (stateful.graph.Accepts · v) with
    | [] =>
      have hend : WriteEnd stateful source v _ := .unmatched hmatches
      simpa [Run.refuse] using hend
    | [next] =>
      obtain ⟨target, htarget⟩ := haccepting next (by simp [hmatches])
      have hend : WriteEnd stateful source v _ := .moved hmatches htarget
      simp only [TransitionGraph.node_of_state? htarget, pure_bind, Run.report, Run.emit_bind]
      simpa [Run.after] using hend
    | first :: second :: others =>
      obtain ⟨candidates, hcandidates⟩ := TransitionGraph.exists_states haccepting
      have hlength := congrArg List.length hcandidates
      have hseveral : 2 ≤ candidates.length := by
        simp only [List.length_map, hmatches, List.length_cons] at hlength
        omega
      have hend : WriteEnd stateful source v _ := .ambiguous hseveral hcandidates
      rw [hmatches] at hcandidates
      simpa [TransitionGraph.nodes_of_states hcandidates, Run.refuse] using hend

/-- A creation is refused or interrupted only by the predicate of the initial state. -/
theorem create_eq {graph : TransitionGraph V} {initial : State V}
    (h : graph.state? graph.initial = some initial) (v : V) :
    create v graph = ⟨initial.predicate.tests v,
      match initial.predicate.verdict v with
      | .ok true => .returned ⟨v, graph.initial, graph⟩
      | .ok false => .refused (.initialStateRejected initial.name (describe v))
      | .error text => .panicked text⟩ := by
  rw [create, TransitionGraph.node_of_state? h, pure_bind, State.accepts, Predicate.eval_eq,
    Run.after_bind]
  match initial.predicate.verdict v with
  | .ok true => ext1 <;> simp
  | .ok false => ext1 <;> simp
  | .error text => ext1 <;> simp

theorem graph_of_create {graph : TransitionGraph V} {v : V}
    (h : (create v graph).outcome = .returned stateful) : stateful.graph = graph := by
  obtain ⟨initial, _, h⟩ := Run.exists_of_bind_returned h
  obtain ⟨accepted, _, h⟩ := Run.exists_of_bind_returned h
  cases accepted with
  | true =>
    cases h
    rfl
  | false => cases h

/-- A write moves within the graph. -/
theorem graph_of_write {v : V} {written : Stateful V}
    (h : (stateful.write v).outcome = .returned written) : written.graph = stateful.graph := by
  obtain ⟨source, _, h⟩ := Run.exists_of_bind_returned h
  obtain ⟨accepting, _, h⟩ := Run.exists_of_bind_returned h
  match accepting with
  | [] => cases h
  | [next] =>
    obtain ⟨target, _, h⟩ := Run.exists_of_bind_returned h
    cases h
    rfl
  | first :: second :: others =>
    obtain ⟨candidates, _, h⟩ := Run.exists_of_bind_returned h
    cases h

end Stateful
end RuntimeContracts

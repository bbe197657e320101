import RuntimeContracts.Proofs.Automaton.Construction
import RuntimeContracts.Proofs.Automaton.Writes

/-!
# Access within bounds

An access to an arena panics outside it. Nothing that can be built or created ever makes such an
access: the operations of builders and graphs do not panic at all, and a creation or a write panics
only where the predicate of a state does.
-/

namespace RuntimeContracts

variable {V : Type}

structure GraphBuilder.InBounds (builder : GraphBuilder V) : Prop where
  connect : ∀ source target text, (builder.connect source target).outcome ≠ .panicked text
  build : ∀ initial text, (builder.build initial).outcome ≠ .panicked text

theorem GraphBuilder.inBounds (builder : GraphBuilder V) : builder.InBounds where
  connect source target text := by
    by_cases hs : builder.Owns source
    · by_cases ht : builder.Owns target
      · rw [connect_of_owns hs ht]
        nofun
      · rw [connect_of_foreign_target hs ht]
        nofun
    · rw [connect_of_foreign_source hs]
      nofun
  build initial text := by
    by_cases h : builder.Owns initial
    · rw [build_of_owns h]
      nofun
    · rw [build_of_foreign h]
      nofun

variable [Describe V]

structure TransitionGraph.InBounds (graph : TransitionGraph V) : Prop where
  nonempty : graph.isEmpty = false
  initial : graph.initial.graph = graph.id ∧ graph.initial.index < graph.size
  node : ∀ id, id.graph = graph.id → id.index < graph.size →
    ∃ state, graph.state? id = some state ∧ (graph.node id : Run Violation _) = pure state
  successor : ∀ source state, graph.state? source = some state → ∀ id ∈ state.successors,
    ∃ next, graph.state? id = some next ∧ (graph.node id : Run Violation _) = pure next
  statesAfter : ∀ id, ∃ states, (graph.statesAfter id : Run Violation _) = pure states
  shape : ∃ shape, (graph.shape : Run Violation _) = pure shape
  create : ∀ v text, (Stateful.create v graph).outcome = .panicked text →
    ∃ state, graph.state? graph.initial = some state ∧ state.predicate.PanicsWith v text

theorem TransitionGraph.Coherent.inBounds {graph : TransitionGraph V} (h : graph.Coherent)
    (hinitial : graph.initial.graph = graph.id ∧ graph.initial.index < graph.size) :
    graph.InBounds := by
  obtain ⟨first, hfirst⟩ := exists_state?_of_owned hinitial
  constructor
  · have := hinitial.2
    unfold size at this
    simp [isEmpty, List.ne_nil_of_length_pos (Nat.zero_lt_of_lt this)]
  · exact hinitial
  · intro id hgraph hindex
    obtain ⟨state, hstate⟩ := exists_state?_of_owned ⟨hgraph, hindex⟩
    exact ⟨state, hstate, node_of_state? hstate⟩
  · intro source state hstate id hid
    obtain ⟨next, hnext⟩ := h.exists_successor hstate hid
    exact ⟨next, hnext, node_of_state? hnext⟩
  · exact statesAfter_of_coherent h
  · exact ⟨_, by rw [shape, node_of_state? hfirst, pure_bind]⟩
  · intro v text hpanicked
    refine ⟨first, hfirst, ?_⟩
    rw [Stateful.create_eq hfirst] at hpanicked
    match hverdict : first.predicate.verdict v with
    | .ok true =>
      rw [hverdict] at hpanicked
      cases hpanicked
    | .ok false =>
      rw [hverdict] at hpanicked
      cases hpanicked
    | .error text =>
      rw [hverdict] at hpanicked
      cases hpanicked
      exact Predicate.panicsWith_iff.2 hverdict

structure Stateful.InBounds (stateful : Stateful V) : Prop where
  graph : stateful.graph.InBounds
  currentState : ∃ state, stateful.graph.state? stateful.current = some state ∧
    (stateful.currentState : Run Violation _) = pure state
  shape : ∃ shape, (stateful.shape : Run Violation _) = pure shape
  write : ∀ v text, (stateful.write v).outcome = .panicked text →
    ∃ source id state, stateful.graph.state? stateful.current = some source ∧
      id ∈ source.successors ∧ stateful.graph.state? id = some state ∧
      state.predicate.PanicsWith v text

theorem Stateful.Settled.inBounds {stateful : Stateful V} (h : stateful.Settled)
    (hgraph : stateful.graph.InBounds) : stateful.InBounds := by
  obtain ⟨source, hsource⟩ := h.exists_source
  have hcurrent : ∀ {ε : Type}, (stateful.currentState : Run ε (State V)) = pure source :=
    TransitionGraph.node_of_state? hsource
  constructor
  · exact hgraph
  · exact ⟨source, hsource, hcurrent⟩
  · exact ⟨_, by rw [shape, hcurrent, pure_bind]⟩
  · intro v text hpanicked
    have hends := write_ends h.coherent hsource v
    generalize stateful.write v = run at hends hpanicked
    cases hends with
    | moved honly htarget => cases hpanicked
    | unmatched hnone => cases hpanicked
    | ambiguous hseveral hcandidates => cases hpanicked
    | @interrupted earlier rest id state _ hsplit hstate hpanics =>
      cases hpanicked
      exact ⟨source, id, state, hsource, by simp [hsplit], hstate, hpanics⟩

/-- Whatever calls are made on a new builder, with whatever handles, its arena is coherent and holds
one state for each successful registration. A graph that it is turned into has the same arena, and
neither the builder, nor the graph, nor any value that writes make of one created on the graph goes
out of bounds. -/
theorem built_in_bounds (id : Nat) (calls : List (GraphBuilder.Call V)) :
    let builder := GraphBuilder.built id calls
    builder.id = id ∧ builder.Coherent ∧ builder.InBounds ∧
      builder.states.length = (GraphBuilder.registrations id calls).length ∧
      ∀ initial graph, (builder.build initial).outcome = .returned graph →
        graph.id = id ∧ graph.Coherent ∧ graph.InBounds ∧
          graph.size = (GraphBuilder.registrations id calls).length ∧
          ∀ value start, (Stateful.create value graph).outcome = .returned start →
            ∀ mode writes,
              (Session.finalState (Stateful.machine.step mode) start writes).InBounds := by
  intro builder
  have hrecords := GraphBuilder.records_built id calls
  have hlength : builder.states.length = (GraphBuilder.registrations id calls).length := by
    rw [← GraphBuilder.length_minted, hrecords.minted_eq]
    rfl
  refine ⟨hrecords.id_eq, hrecords.coherent, builder.inBounds, hlength, ?_⟩
  intro initial graph hgraph
  obtain ⟨howns, rfl⟩ := GraphBuilder.build_returned hgraph
  have hcoherent : (builder.graphFrom initial).Coherent := hrecords.coherent
  have hbounds : (builder.graphFrom initial).InBounds := hcoherent.inBounds howns
  refine ⟨hrecords.id_eq, hcoherent, hbounds, hlength, ?_⟩
  intro value start hstart mode writes
  obtain ⟨rfl, hsettled⟩ := Stateful.start_of_create hcoherent howns hstart
  obtain ⟨hfinal, hsame⟩ := hsettled.finalState mode writes
  exact hfinal.inBounds (by rw [hsame]; exact hbounds)

/-- A door on which one write is accepted and one interrupted stays within bounds. -/
theorem door_in_bounds :
    let graph := (GraphBuilder.built 0 GraphBuilder.doorCalls).graphFrom ⟨0, 0⟩
    let start : Stateful String := ⟨"open", ⟨0, 0⟩, graph⟩
    let writes : List (Form × String) := [(.checked, "shut"), (.failFast, "jammed")]
    ((GraphBuilder.built 0 GraphBuilder.doorCalls).build ⟨0, 0⟩).outcome = .returned graph ∧
      (Stateful.create "open" graph).outcome = .returned start ∧
      graph.size = (GraphBuilder.registrations 0 GraphBuilder.doorCalls).length ∧
      (Session.finalState (Stateful.machine.step .panic) start writes).InBounds := by
  intro graph start writes
  have hgraph : ((GraphBuilder.built 0 GraphBuilder.doorCalls).build ⟨0, 0⟩).outcome =
      .returned graph := rfl
  have hstart : (Stateful.create "open" graph).outcome = .returned start := rfl
  obtain ⟨_, _, _, _, hbuilt⟩ := built_in_bounds 0 GraphBuilder.doorCalls
  obtain ⟨_, _, _, hsize, hcreated⟩ := hbuilt ⟨0, 0⟩ graph hgraph
  exact ⟨hgraph, hstart, hsize, hcreated "open" start hstart .panic writes⟩

end RuntimeContracts

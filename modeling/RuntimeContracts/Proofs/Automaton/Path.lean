import Mathlib.Data.List.Forall2
import RuntimeContracts.Proofs.Automaton.Construction
import RuntimeContracts.Proofs.Automaton.Writes

/-!
# The path of a stateful value

The accepted writes of a run lead a stateful value through its graph on the only path that they
leave open: each state is connected to the one before it, and accepts the value of its write.
-/

namespace RuntimeContracts

namespace TransitionGraph

variable {V : Type} {graph : TransitionGraph V} {linked : StateHandle → StateHandle → Prop}

structure Path (linked : StateHandle → StateHandle → Prop) (graph : TransitionGraph V)
    (source : StateHandle) (values : List V) (states : List StateHandle) : Prop where
  chain : (source :: states).IsChain linked
  accepts : List.Forall₂ graph.Accepts states values

theorem path_nil_iff {source : StateHandle} {states : List StateHandle} :
    graph.Path linked source [] states ↔ states = [] := by
  constructor
  · intro h
    exact List.forall₂_nil_right_iff.1 h.accepts
  · rintro rfl
    exact ⟨.singleton source, .nil⟩

theorem path_cons_iff {source : StateHandle} {v : V} {values : List V}
    {states : List StateHandle} : graph.Path linked source (v :: values) states ↔
      ∃ next rest, states = next :: rest ∧ linked source next ∧ graph.Accepts next v ∧
        graph.Path linked next values rest := by
  constructor
  · rintro ⟨hchain, haccepts⟩
    obtain ⟨next, rest, hnext, hrest, rfl⟩ := List.forall₂_cons_right_iff.1 haccepts
    obtain ⟨hlinked, htail⟩ := List.isChain_cons_cons.1 hchain
    exact ⟨next, rest, rfl, hlinked, hnext, htail, hrest⟩
  · rintro ⟨next, rest, rfl, hlinked, hnext, htail, hrest⟩
    exact ⟨List.isChain_cons_cons.2 ⟨hlinked, htail⟩, .cons hnext hrest⟩

end TransitionGraph

namespace GraphBuilder

/-- The successors of a state are those that calls have connected it to. -/
theorem mem_successors_iff_connected {V : Type} {id : Nat} {calls : List (Call V)}
    {initial source : StateHandle} {state : State V}
    (h : ((built id calls).graphFrom initial).state? source = some state) (target : StateHandle) :
    target ∈ state.successors ↔ Connected id calls source target := by
  have hrecords := records_built id calls
  obtain ⟨hgraph, hstate⟩ := TransitionGraph.getElem?_of_state? h
  exact hrecords.successors_iff source state (hgraph.trans hrecords.id_eq) hstate target

end GraphBuilder

namespace Stateful

variable {V : Type} {stateful : Stateful V}

/-- What a run of writes makes of a stateful value: the accepted values leave one path open, and the
value is at the end of it. -/
structure Follows (linked : StateHandle → StateHandle → Prop) (start : Stateful V)
    (values : List V) (final : Stateful V) : Prop where
  value : final.value = values.getLastD start.value
  exists_path : ∃ states, (∀ others,
    start.graph.Path linked start.current values others ↔ others = states) ∧
      final.current = states.getLastD start.current

theorem follows_refl (linked : StateHandle → StateHandle → Prop) (stateful : Stateful V) :
    Follows linked stateful [] stateful where
  value := rfl
  exists_path := ⟨[], fun _ => TransitionGraph.path_nil_iff, rfl⟩

/-- A move to the only linked state that accepts a value comes before the rest of the path. -/
theorem Follows.behind_move {linked : StateHandle → StateHandle → Prop} {v : V}
    {next : StateHandle} {values : List V} {final : Stateful V}
    (honly : ∀ other, linked stateful.current other ∧ stateful.graph.Accepts other v ↔
      other = next)
    (h : Follows linked { stateful with value := v, current := next } values final) :
    Follows linked stateful (v :: values) final where
  value := by
    rw [h.value, List.getLastD_cons]
  exists_path := by
    obtain ⟨states, hpath, hcurrent⟩ := h.exists_path
    refine ⟨next :: states, fun others => ?_, by rw [hcurrent, List.getLastD_cons]⟩
    rw [TransitionGraph.path_cons_iff]
    constructor
    · rintro ⟨other, rest, rfl, hlinked, haccepts, hrest⟩
      obtain rfl := (honly other).1 ⟨hlinked, haccepts⟩
      rw [(hpath rest).1 hrest]
    · rintro rfl
      obtain ⟨hlinked, haccepts⟩ := (honly next).2 rfl
      exact ⟨next, states, rfl, hlinked, haccepts, (hpath states).2 rfl⟩

variable [Describe V]

def acceptedValues (mode : FailureMode) (stateful : Stateful V) (writes : List (Form × V)) :
    List V :=
  (Session.answered (machine.step mode) stateful writes).map fun done => done.1.2

theorem Settled.follows {linked : StateHandle → StateHandle → Prop} (h : stateful.Settled)
    (hlinked : ∀ source state, stateful.graph.state? source = some state →
      ∀ target, target ∈ state.successors ↔ linked source target)
    (mode : FailureMode) (writes : List (Form × V)) :
    Follows linked stateful (acceptedValues mode stateful writes)
      (Session.finalState (machine.step mode) stateful writes) := by
  unfold acceptedValues
  induction writes generalizing stateful with
  | nil => exact follows_refl linked stateful
  | cons request rest ih =>
    rw [Session.finalState_cons]
    rcases step_ends mode request stateful with
      ⟨written, hwrite, hstep, hanswer⟩ | ⟨_, hstep, hnone⟩
    · rw [Session.answered_cons_of_returned hanswer, hstep]
      have hsettled := h.write hwrite
      obtain ⟨source, next, hsource, hmatches, rfl⟩ := h.write_returned hwrite
      refine (ih hsettled hlinked).behind_move fun other => ?_
      rw [← hlinked stateful.current source hsource, ← List.mem_singleton, ← hmatches,
        List.mem_filter, decide_eq_true_iff]
    · rw [Session.answered_cons_of_not_returned hnone, hstep]
      exact ih h hlinked

/-- On a graph that any calls built, a run of writes in any forms, however they end, takes a
stateful value along the one path from the initial state whose pairs were connected and whose states
accept the accepted values. The current state, its last one, accepts the stored value, which was
accepted last. -/
theorem run_follows_unique_path (mode : FailureMode) (id : Nat)
    (calls : List (GraphBuilder.Call V)) {initial : StateHandle} {graph : TransitionGraph V}
    (hgraph : ((GraphBuilder.built id calls).build initial).outcome = .returned graph) {v₀ : V}
    {start : Stateful V} (hstart : (create v₀ graph).outcome = .returned start)
    (writes : List (Form × V)) :
    let final := Session.finalState (machine.step mode) start writes
    let accepted := acceptedValues mode start writes
    let Path := graph.Path (GraphBuilder.Connected id calls) initial accepted
    final.graph = graph ∧ graph.Accepts final.current final.value ∧
      final.value = accepted.getLastD v₀ ∧ (∃! states, Path states) ∧
      ∀ states, Path states → final.current = states.getLastD initial := by
  intro final accepted Path
  obtain ⟨howns, rfl⟩ := GraphBuilder.build_returned hgraph
  have hcoherent : ((GraphBuilder.built id calls).graphFrom initial).Coherent :=
    (GraphBuilder.records_built id calls).coherent
  obtain ⟨rfl, hsettled⟩ := start_of_create hcoherent howns hstart
  obtain ⟨hfinal, hsame⟩ := hsettled.finalState mode writes
  obtain ⟨hvalue, states, hpath, hcurrent⟩ := hsettled.follows
    (fun _ _ => GraphBuilder.mem_successors_iff_connected) mode writes
  have haccepts := hfinal.accepts
  rw [hsame] at haccepts
  refine ⟨hsame, haccepts, hvalue, ⟨states, (hpath states).2 rfl, fun others => (hpath others).1⟩,
    ?_⟩
  intro others hothers
  rw [(hpath others).1 hothers]
  exact hcurrent

def doorWrites : List (Form × String) :=
  [(.checked, "ajar"), (.failFast, "jammed"), (.checked, "open"), (.failFast, "shut"),
    (.failFast, "shut"), (.checked, "ajar")]

/-- Three of the six writes are accepted, and lead once around the graph. -/
theorem door_follows_path :
    let graph := (GraphBuilder.built 0 GraphBuilder.doorCalls).graphFrom ⟨0, 0⟩
    let start : Stateful String := ⟨"open", ⟨0, 0⟩, graph⟩
    let final := Session.finalState (machine.step .panic) start doorWrites
    ((GraphBuilder.built 0 GraphBuilder.doorCalls).build ⟨0, 0⟩).outcome = .returned graph ∧
      (create "open" graph).outcome = .returned start ∧
      acceptedValues .panic start doorWrites = ["open", "shut", "ajar"] ∧
      graph.Accepts final.current "ajar" ∧
      ∃! states, graph.Path (GraphBuilder.Connected 0 GraphBuilder.doorCalls) ⟨0, 0⟩
        ["open", "shut", "ajar"] states := by
  intro graph start final
  have hgraph : ((GraphBuilder.built 0 GraphBuilder.doorCalls).build ⟨0, 0⟩).outcome =
      .returned graph := rfl
  have hstart : (create "open" graph).outcome = .returned start := rfl
  have haccepted : acceptedValues .panic start doorWrites = ["open", "shut", "ajar"] := by
    decide +kernel
  obtain ⟨_, haccepts, hvalue, hunique, _⟩ :=
    run_follows_unique_path .panic 0 GraphBuilder.doorCalls hgraph hstart doorWrites
  rw [haccepted] at hvalue hunique
  rw [hvalue] at haccepts
  exact ⟨hgraph, hstart, haccepted, haccepts, hunique⟩

end Stateful
end RuntimeContracts

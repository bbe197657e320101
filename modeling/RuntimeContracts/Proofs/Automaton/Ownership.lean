import RuntimeContracts.Proofs.Automaton.Keeping

/-!
# Who owns a handle

A handle belongs to the builder that minted it, and to whatever is made of that builder. All others
refuse it, also where they have a state at its place, and also where they bear the same name.
-/

namespace RuntimeContracts

variable {V : Type}

/-- The builder takes the handles of these registrations and no others. Of two that it does not take
it names the first. -/
structure GraphBuilder.Guards (builder : GraphBuilder V) (minted : List (Minting V)) : Prop where
  connect : ∀ first ∈ minted, ∀ second ∈ minted, ∃ connected,
    (builder.connect first.handle second.handle).outcome = .returned connected
  connect_source : ∀ source, (∀ minting ∈ minted, minting.handle ≠ source) → ∀ target,
    (builder.connect source target).outcome = .refused (.unknownState (describe source))
  connect_target : ∀ first ∈ minted, ∀ target, (∀ minting ∈ minted, minting.handle ≠ target) →
    (builder.connect first.handle target).outcome = .refused (.unknownState (describe target))
  build : ∀ first ∈ minted, ∃ graph, (builder.build first.handle).outcome = .returned graph
  build_foreign : ∀ initial, (∀ minting ∈ minted, minting.handle ≠ initial) →
    (builder.build initial).outcome = .refused (.unknownState (describe initial))

theorem GraphBuilder.guards (builder : GraphBuilder V) : builder.Guards builder.minted := by
  have howns : ∀ minting ∈ builder.minted, builder.Owns minting.handle :=
    fun minting hmem => owns_iff_minted.2 ⟨minting, hmem, rfl⟩
  have hforeign : ∀ {id}, (∀ minting ∈ builder.minted, minting.handle ≠ id) →
      ¬ builder.Owns id := by
    intro id hnone hid
    obtain ⟨minting, hmem, hhandle⟩ := owns_iff_minted.1 hid
    exact hnone minting hmem hhandle
  constructor
  · intro first hfirst second hsecond
    rw [connect_of_owns (howns first hfirst) (howns second hsecond)]
    exact ⟨_, rfl⟩
  · intro source hsource target
    rw [connect_of_foreign_source (hforeign hsource)]
  · intro first hfirst target htarget
    rw [connect_of_foreign_target (howns first hfirst) (hforeign htarget)]
  · intro first hfirst
    exact ⟨_, build_of_owns (howns first hfirst)⟩
  · intro initial hinitial
    rw [build_of_foreign (hforeign hinitial)]

structure TransitionGraph.Serves (graph : TransitionGraph V) (minted : List (Minting V)) :
    Prop where
  state : ∀ minting ∈ minted, ∃ state, graph.state? minting.handle = some state ∧
    state.name = minting.name ∧ state.predicate = minting.predicate
  foreign : ∀ id, (∀ minting ∈ minted, minting.handle ≠ id) → graph.state? id = none ∧
    (graph.statesAfter id : Run Violation (List (State V))) = pure []

theorem TransitionGraph.serves (graph : TransitionGraph V) :
    graph.Serves graph.arena.minted := by
  constructor
  · intro minting hmem
    obtain ⟨hgraph, state, hstate, hregistered⟩ := GraphBuilder.mem_minted.1 hmem
    exact ⟨state, (if_pos hgraph).trans hstate, hregistered⟩
  · intro id hnone
    have hstate : graph.state? id = none := by
      rw [Option.eq_none_iff_forall_ne_some]
      intro state hsome
      obtain ⟨hgraph, hplace⟩ := getElem?_of_state? hsome
      have howns : graph.arena.Owns id := ⟨hgraph, (List.getElem?_eq_some_iff.1 hplace).1⟩
      obtain ⟨minting, hmem, hhandle⟩ := GraphBuilder.owns_iff_minted.1 howns
      exact hnone minting hmem hhandle
    refine ⟨hstate, ?_⟩
    rw [statesAfter, hstate]

namespace Automaton

variable {work : Workspace V} {ledger : Ledger V}

def Subject.place : Subject → Place
  | .graph name => .graph name
  | .stateful name => .stateful name

theorem Workspace.arena?_place (subject : Subject) :
    work.arena? subject.place = (work.graphOf? subject).map TransitionGraph.arena := by
  cases subject with
  | graph name => rfl
  | stateful name =>
    rw [graphOf?, Option.map_map]
    rfl

namespace Ledger

theorem Agrees.guards (h : ledger.Agrees work) (name : String) :
    Option.Rel (fun number builder => builder.Guards (ledger.mintedBy number))
      (ledger.builder? (.builder name)) (work.builders.get? name) := by
  rw [h.tracks.builder?_eq, Function.comp_apply, Workspace.arena?]
  cases hbuilder : work.builders.get? name with
  | none => exact .none
  | some builder =>
    refine .some ?_
    rw [(h.tracks.shows (.builder name) builder hbuilder).mintedBy_eq]
    exact builder.guards

theorem Agrees.serves (h : ledger.Agrees work) (subject : Subject) :
    Option.Rel (fun number graph => graph.Serves (ledger.mintedBy number))
      (ledger.builder? subject.place) (work.graphOf? subject) := by
  rw [h.tracks.builder?_eq, Function.comp_apply, Workspace.arena?_place]
  cases hgraph : work.graphOf? subject with
  | none => exact .none
  | some graph =>
    have harena : work.arena? subject.place = some graph.arena := by
      rw [Workspace.arena?_place, hgraph, Option.map_some]
    refine .some ?_
    rw [(h.tracks.shows subject.place graph.arena harena).mintedBy_eq]
    exact graph.serves

end Ledger

variable [Describe V]

/-- Wherever requests lead from an empty workspace, and whatever builders they create, replace and
turn into graphs on the way: handles are ordered by the creation of their builders and then by their
registration; a builder takes what it minted itself and nothing else; a graph has the states that
its builder registered under their handles, and nothing under others; and every handle that is held
was minted. -/
theorem handles_owned_by_one_builder (mode : FailureMode) (requests : List (Request V)) :
    let work := Session.finalState (machine.step mode) Workspace.empty requests
    let ledger := Ledger.empty.along mode Workspace.empty requests
    ledger.Ordered ∧
      (∀ name, Option.Rel (fun number builder => builder.Guards (ledger.mintedBy number))
        (ledger.builder? (.builder name)) (work.builders.get? name)) ∧
      (∀ subject, Option.Rel (fun number graph => graph.Serves (ledger.mintedBy number))
        (ledger.builder? subject.place) (work.graphOf? subject)) ∧
      ∀ name id, work.handles.get? name = some id →
        ∃ registration ∈ ledger.registrations, registration.minting.handle = id := by
  intro work ledger
  have hagrees : ledger.Agrees work := Ledger.agrees_empty.along mode requests
  exact ⟨hagrees.valid.ordered, hagrees.guards, hagrees.serves, hagrees.held⟩

/-- A lamp is drawn up twice under one name, and the second time turned into a graph. -/
def lampRequests : List (Request String) :=
  let lit := .named "lit" fun lamp => .ok (lamp == "on")
  [.newBuilder "lamp", .register "lamp" "on" lit "first", .newBuilder "lamp",
    .register "lamp" "on" lit "second", .register "lamp" "on" lit "third",
    .connect "lamp" [("second", "first")], .connect "lamp" [("second", "second")],
    .build "lamp" "second" "lamp"]

/-- The graph has no state for the handle of the first drawing, but one at its place. -/
theorem lamp_ignores_first_drawing :
    let work := Session.finalState (machine.step .panic) Workspace.empty lampRequests
    work.handles.get? "first" = some ⟨0, 0⟩ ∧ work.handles.get? "second" = some ⟨1, 0⟩ ∧
      ∃ graph state, work.graphOf? (.graph "lamp") = some graph ∧ graph.state? ⟨0, 0⟩ = none ∧
        graph.state? ⟨1, 0⟩ = some state ∧ state.name = "on" := by
  intro work
  let ledger := Ledger.empty.along .panic Workspace.empty lampRequests
  have hnumber : ledger.builder? (.graph "lamp") = some 1 := by decide +kernel
  have hfirst : ∀ minting ∈ ledger.mintedBy 1, minting.handle ≠ ⟨0, 0⟩ := by decide +kernel
  have hsecond : ∃ minting ∈ ledger.mintedBy 1, minting.handle = ⟨1, 0⟩ ∧ minting.name = "on" := by
    decide +kernel
  obtain ⟨_, _, hserves, _⟩ := handles_owned_by_one_builder .panic lampRequests
  have hlamp := hserves (.graph "lamp")
  change Option.Rel _ (ledger.builder? (.graph "lamp")) (work.graphOf? (.graph "lamp")) at hlamp
  rw [hnumber] at hlamp
  generalize work.graphOf? (.graph "lamp") = graph? at hlamp ⊢
  cases hlamp with
  | @some _ graph hgraph =>
    obtain ⟨minting, hmem, hhandle, hname⟩ := hsecond
    obtain ⟨state, hstate, hregistered, _⟩ := hgraph.state minting hmem
    rw [hhandle] at hstate
    refine ⟨by decide +kernel, by decide +kernel, graph, state, rfl, ?_, hstate, ?_⟩
    · exact (hgraph.foreign ⟨0, 0⟩ hfirst).1
    · rw [hregistered, hname]

end Automaton
end RuntimeContracts

import RuntimeContracts.Automaton.Session
import RuntimeContracts.Proofs.Automaton.Choice
import RuntimeContracts.Proofs.Automaton.RegistrationOrder

/-!
# What a builder remembers

A builder can be drawn up again from what was registered, in order, and from which pairs were
connected. It remembers nothing else of the calls that were made on it: neither the order of the
connections and their repetitions, nor the calls that failed.
-/

namespace RuntimeContracts

namespace Named

variable {α : Type}

theorem replace_of_free {name : String} {entries : List (String × α)}
    (h : find name entries = none) (a : α) : replace name a entries = entries ++ [(name, a)] := by
  induction entries with
  | nil => rfl
  | cons entry rest ih =>
    obtain ⟨key, b⟩ := entry
    by_cases hkey : key = name
    · simp [find, hkey] at h
    · have hrest : find name rest = none := by simpa [find, hkey] using h
      simp [replace, hkey, ih hrest]

end Named

namespace GraphBuilder

variable {V : Type}

def recorded (id : Nat) (labels : List (String × Predicate V))
    (linked : StateHandle → StateHandle → Bool) : GraphBuilder V where
  id := id
  states := labels.mapIdx fun i label =>
    ⟨label.1, label.2, ((List.range labels.length).map (StateHandle.mk id)).filter (linked ⟨id, i⟩)⟩
  index := ⟨labels.mapIdx fun i label => (label.1, ⟨id, i⟩)⟩

variable {id : Nat} {calls calls' : List (Call V)} {initial : StateHandle}

theorem map_handle_registrations (id : Nat) (calls : List (Call V)) :
    (registrations id calls).map Minting.handle =
      (List.range (registered id calls).length).map (StateHandle.mk id) := by
  rw [registrations_eq, registered_eq, List.length_map, minted, (records_built id calls).id_eq]
  apply List.ext_getElem <;> simp

theorem map_handle_followers (source : StateHandle) :
    (followers id calls source).map Minting.handle =
      ((List.range (registered id calls).length).map (StateHandle.mk id)).filter
        fun target => Connected id calls source target := by
  rw [← map_handle_registrations, List.filter_map]
  rfl

/-- Each name that was registered is found with its handle, and no other name is. -/
theorem index_eq_minted (id : Nat) (calls : List (Call V)) : (built id calls).index =
    ⟨(built id calls).minted.map fun minting => (minting.name, minting.handle)⟩ := by
  refine Session.finalState_induction (motive := fun builder : GraphBuilder V =>
    builder.index = ⟨builder.minted.map fun minting => (minting.name, minting.handle)⟩)
    ?_ rfl calls
  intro call builder hindex
  have hends := perform_ends builder call
  generalize (perform call builder).1 = final at hends ⊢
  generalize (perform call builder).2.outcome = outcome at hends
  cases hends with
  | @registered name predicate hfree =>
    change Named.mk (Named.replace name builder.nextId builder.index.entries) = _
    rw [Named.replace_of_free hfree, hindex, minted_extend, List.map_append]
    rfl
  | @connected source target hs ht =>
    rw [minted_link]
    exact hindex
  | refused call e => exact hindex

theorem states_built (id : Nat) (calls : List (Call V)) :
    (built id calls).states = (registered id calls).mapIdx fun i label => ⟨label.1, label.2,
      ((List.range (registered id calls).length).map (StateHandle.mk id)).filter
        fun target => Connected id calls ⟨id, i⟩ target⟩ := by
  apply List.ext_getElem?
  intro i
  rw [List.getElem?_mapIdx, ← map_handle_followers, registered_eq, List.getElem?_map]
  cases hstate : (built id calls).states[i]? with
  | none => rfl
  | some state =>
    have hnode : ((built id calls).graphFrom ⟨id, i⟩).state? ⟨id, i⟩ = some state :=
      state?_graphFrom.2 ⟨rfl, hstate⟩
    have hsuccessors := successors_eq_followers hnode
    rw [Option.map_some, Option.map_some, ← hsuccessors]
    rfl

theorem index_built (id : Nat) (calls : List (Call V)) :
    (built id calls).index = ⟨(registered id calls).mapIdx fun i label => (label.1, ⟨id, i⟩)⟩ := by
  rw [index_eq_minted, minted, (records_built id calls).id_eq, registered_eq]
  congr 1
  apply List.ext_getElem?
  intro i
  simp [State.label, Function.comp_def]

/-- A builder is what it was told, whatever calls told it. -/
theorem built_eq_recorded (id : Nat) (calls : List (Call V)) : built id calls =
    recorded id (registered id calls) fun source target => Connected id calls source target := by
  change GraphBuilder.mk (built id calls).id (built id calls).states (built id calls).index = _
  rw [(records_built id calls).id_eq, states_built, index_built]
  rfl

structure SameConstruction (id : Nat) (calls calls' : List (Call V)) : Prop where
  registered_eq : registered id calls = registered id calls'
  connected_iff : ∀ source target,
    Connected id calls source target ↔ Connected id calls' source target

theorem SameConstruction.built_eq (h : SameConstruction id calls calls') :
    built id calls = built id calls' := by
  have hlinked : (fun source target => decide (Connected id calls source target)) =
      fun source target => decide (Connected id calls' source target) := by
    funext source target
    exact decide_eq_decide.2 (h.connected_iff source target)
  rw [built_eq_recorded, h.registered_eq, hlinked, ← built_eq_recorded]

theorem not_connected_of_foreign {source : StateHandle} (h : ¬ (built id calls).Owns source)
    (target : StateHandle) : ¬ Connected id calls source target :=
  fun hconnected => h ((records_built id calls).owned source target hconnected)

/-- What may follow a state are the targets that it was connected to, each once and in the order of
registration. -/
theorem statesAfter_graphFrom (source : StateHandle) :
    let graph := (built id calls).graphFrom initial
    ∃ handles states, StateHandle.Ascending handles ∧
      (∀ target, target ∈ handles ↔ Connected id calls source target) ∧
      handles.map graph.state? = states.map some ∧
      (graph.statesAfter source : Run Violation (List (State V))) = pure states := by
  intro graph
  have hcoherent : graph.Coherent := (records_built id calls).coherent
  cases hstate : graph.state? source with
  | none =>
    -- Nothing was connected from a handle that the builder did not issue.
    have hforeign : ¬ (built id calls).Owns source := by
      intro howns
      obtain ⟨state, hsome⟩ : ∃ state, graph.state? source = some state :=
        TransitionGraph.exists_state?_of_owned howns
      rw [hstate] at hsome
      cases hsome
    refine ⟨[], [], .nil, fun target => ?_, rfl, by rw [TransitionGraph.statesAfter, hstate]⟩
    exact iff_of_false List.not_mem_nil (not_connected_of_foreign hforeign target)
  | some state =>
    obtain ⟨states, hstates⟩ :=
      TransitionGraph.exists_states fun _ => hcoherent.exists_successor hstate
    have hmem := List.mem_of_getElem? (TransitionGraph.getElem?_of_state? hstate).2
    refine ⟨state.successors, states, successors_ascending id calls state hmem,
      mem_successors_iff_connected hstate, hstates, ?_⟩
    rw [TransitionGraph.statesAfter, hstate]
    exact TransitionGraph.nodes_of_states hstates

/-- Two lists of calls that register the same states in the same order and connect the same pairs
issue the same handles and build the same graph, with the same look-ups and successors, so that no
session can tell the builders apart: neither the order and the repetition of the connections nor the
calls that failed leave a trace. In the graph, what may follow a state is each target of its
connections, once and in the order of registration. -/
theorem graph_determined_by_registrations_and_connections [Describe V]
    (hsame : SameConstruction id calls calls') (howns : (built id calls).Owns initial) :
    registrations id calls = registrations id calls' ∧
    ∃ graph, ((built id calls).build initial).outcome = .returned graph ∧
      ((built id calls').build initial).outcome = .returned graph ∧
      (∀ mode name (work : Automaton.Workspace V) requests,
        Automaton.machine.session mode (work.setBuilder name (built id calls)) requests =
          Automaton.machine.session mode (work.setBuilder name (built id calls')) requests) ∧
      ∀ source, ∃ handles states, StateHandle.Ascending handles ∧
        (∀ target, target ∈ handles ↔ Connected id calls source target) ∧
        handles.map graph.state? = states.map some ∧
        (graph.statesAfter source : Run Violation (List (State V))) = pure states := by
  refine ⟨?_, _, build_of_owns howns, ?_, fun mode name work requests => ?_, statesAfter_graphFrom⟩
  · rw [registrations_eq, hsame.built_eq, ← registrations_eq]
  · rw [← hsame.built_eq]
    exact build_of_owns howns
  · rw [hsame.built_eq]

/-- The same door, connected in another order and once more than needed, with calls in between that
fail: handles that are not issued yet or are foreign, and a name that is taken. -/
def openedAgain : List (Call String) :=
  [.connect ⟨0, 0⟩ ⟨0, 0⟩, .register "open" openDoor, .connect ⟨0, 0⟩ ⟨0, 1⟩,
    .connect ⟨0, 0⟩ ⟨0, 0⟩, .register "open" shutDoor, .register "shut" shutDoor,
    .connect ⟨0, 0⟩ ⟨3, 0⟩, .connect ⟨0, 0⟩ ⟨0, 1⟩, .connect ⟨0, 0⟩ ⟨0, 0⟩]

theorem sameConstruction_doors : SameConstruction 0 openedFirst openedAgain where
  registered_eq := rfl
  connected_iff source target := by
    have hagain : successes 0 openedAgain =
        [(.register "open" openDoor, some ⟨0, 0⟩), (.connect ⟨0, 0⟩ ⟨0, 0⟩, none),
          (.register "shut" shutDoor, some ⟨0, 1⟩), (.connect ⟨0, 0⟩ ⟨0, 1⟩, none),
          (.connect ⟨0, 0⟩ ⟨0, 0⟩, none)] := rfl
    simp only [Connected, successes_openedFirst, hagain]
    grind

/-- Both doors start open, and may stay open or be shut, in this order. -/
theorem doors_are_the_same :
    let graph := (built 0 openedFirst).graphFrom ⟨0, 0⟩
    SameConstruction 0 openedFirst openedAgain ∧ (built 0 openedFirst).Owns ⟨0, 0⟩ ∧
      ((built 0 openedAgain).build ⟨0, 0⟩).outcome = .returned graph ∧
      ∃ states, [⟨0, 0⟩, ⟨0, 1⟩].map graph.state? = states.map some ∧
        (graph.statesAfter ⟨0, 0⟩ : Run Violation (List (State String))) = pure states := by
  intro graph
  have howns : (built 0 openedFirst).Owns ⟨0, 0⟩ := by decide
  obtain ⟨_, graph', hfirst, hagain, _, hafter⟩ :=
    graph_determined_by_registrations_and_connections sameConstruction_doors howns
  obtain rfl : graph = graph' := Outcome.returned.inj ((build_of_owns howns).symm.trans hfirst)
  obtain ⟨handles, states, hascending, hconnected, hstates, hanswer⟩ := hafter ⟨0, 0⟩
  have hhandles : handles = [⟨0, 0⟩, ⟨0, 1⟩] := by
    refine hascending.eq_of_mem_iff (by simp [StateHandle.Ascending]) fun target => ?_
    rw [hconnected, Connected, successes_openedFirst]
    grind
  rw [hhandles] at hstates
  exact ⟨sameConstruction_doors, howns, hagain, states, hstates, hanswer⟩

end GraphBuilder
end RuntimeContracts

import Mathlib.Data.List.Nodup
import RuntimeContracts.Automaton.Builder

/-!
# Coherent arenas

The arena of a builder is coherent: the names of its states are distinct, the index finds each state
under its name, and every successor is a handle of the arena. Registering and connecting keep it so,
and each does all of its work or nothing.
-/

namespace RuntimeContracts

structure Arena.Coherent {V : Type} (id : Nat) (states : List (State V))
    (index : Named StateHandle) : Prop where
  names_nodup : (states.map State.name).Nodup
  get?_eq_some_iff : ∀ name h, index.get? name = some h ↔
    h.graph = id ∧ ∃ state, states[h.index]? = some state ∧ state.name = name
  successors_owned : ∀ state ∈ states, ∀ h ∈ state.successors,
    h.graph = id ∧ h.index < states.length

theorem Arena.Coherent.name_ne_of_free {V : Type} {id : Nat} {states : List (State V)}
    {index : Named StateHandle} (h : Coherent id states index) {name : String}
    (hfree : index.get? name = none) : ∀ state ∈ states, state.name ≠ name := by
  intro state hmem hname
  obtain ⟨i, hi⟩ := List.mem_iff_getElem?.1 hmem
  have hget := (h.get?_eq_some_iff name ⟨id, i⟩).2 ⟨rfl, state, hi, hname⟩
  rw [hfree] at hget
  cases hget

structure Minting (V : Type) where
  handle : StateHandle
  name : String
  predicate : Predicate V

namespace GraphBuilder

variable {V : Type} {builder : GraphBuilder V}

def extend (builder : GraphBuilder V) (name : String) (predicate : Predicate V) : GraphBuilder V :=
  { builder with
    states := builder.states ++ [⟨name, predicate, []⟩]
    index := builder.index.insert name builder.nextId }

def link (builder : GraphBuilder V) (source target : StateHandle) : GraphBuilder V :=
  { builder with states := builder.states.modify source.index (·.connectTo target) }

@[simp] theorem length_states_extend (name : String) (predicate : Predicate V) :
    (builder.extend name predicate).states.length = builder.states.length + 1 := by
  simp [extend]

@[simp] theorem length_states_link (source target : StateHandle) :
    (builder.link source target).states.length = builder.states.length := by
  simp [link]

theorem getElem?_extend {name : String} {predicate : Predicate V} {i : Nat} {state : State V} :
    (builder.extend name predicate).states[i]? = some state ↔
      builder.states[i]? = some state ∨
        i = builder.states.length ∧ state = ⟨name, predicate, []⟩ := by
  change (builder.states ++ [_])[i]? = some state ↔ _
  rcases Nat.lt_trichotomy i builder.states.length with hlt | rfl | hgt
  · have hne : i ≠ builder.states.length := by omega
    simp [List.getElem?_append_left hlt, hne]
  · simp [eq_comm]
  · have hne : i ≠ builder.states.length := by omega
    have hold : builder.states[i]? = none := List.getElem?_eq_none (by omega)
    have hnew : (builder.states ++ [⟨name, predicate, []⟩])[i]? = none :=
      List.getElem?_eq_none (by simp; omega)
    simp [hold, hnew, hne]

theorem getElem?_link {source target : StateHandle} {i : Nat} {state : State V}
    (h : (builder.link source target).states[i]? = some state) :
    ∃ old, builder.states[i]? = some old ∧
      ∀ id, id ∈ state.successors ↔ id ∈ old.successors ∨ source.index = i ∧ id = target := by
  simp only [link, List.getElem?_modify] at h
  cases hold : builder.states[i]? with
  | none => simp [hold] at h
  | some old =>
    refine ⟨old, rfl, ?_⟩
    by_cases hi : source.index = i
    · have hstate : old.connectTo target = state := by simpa [hold, hi] using h
      rw [← hstate]
      simp [State.connectTo, StateHandle.mem_insertAscending, hi, or_comm]
    · have hstate : old = state := by simpa [hold, hi] using h
      rw [← hstate]
      simp [hi]

def minted (builder : GraphBuilder V) : List (Minting V) :=
  builder.states.mapIdx fun i state => ⟨⟨builder.id, i⟩, state.name, state.predicate⟩

@[simp] theorem length_minted : builder.minted.length = builder.states.length := by
  simp [minted]

@[simp] theorem minted_extend (name : String) (predicate : Predicate V) :
    (builder.extend name predicate).minted =
      builder.minted ++ [⟨builder.nextId, name, predicate⟩] := by
  simp [minted, extend, nextId]

/-- A connection changes no name and no predicate. -/
@[simp] theorem minted_link (source target : StateHandle) :
    (builder.link source target).minted = builder.minted := by
  apply List.ext_getElem?
  intro i
  simp only [minted, link, List.getElem?_mapIdx, List.getElem?_modify]
  cases builder.states[i]? with
  | none => rfl
  | some old => by_cases hi : source.index = i <;> simp [hi, State.connectTo]

theorem map_name_minted : builder.minted.map Minting.name = builder.states.map State.name := by
  apply List.ext_getElem?
  intro i
  simp [minted, Function.comp_def]

theorem mem_minted {minting : Minting V} : minting ∈ builder.minted ↔
    minting.handle.graph = builder.id ∧ ∃ state,
      builder.states[minting.handle.index]? = some state ∧ state.name = minting.name ∧
        state.predicate = minting.predicate := by
  simp only [minted, List.mem_mapIdx]
  constructor
  · rintro ⟨i, hi, rfl⟩
    exact ⟨rfl, _, List.getElem?_eq_getElem hi, rfl, rfl⟩
  · rintro ⟨hgraph, state, hstate, hname, hpredicate⟩
    obtain ⟨hi, rfl⟩ := List.getElem?_eq_some_iff.1 hstate
    exact ⟨minting.handle.index, hi, by rw [← hgraph, hname, hpredicate]⟩

/-- The handles that a builder takes are those of its registrations. -/
theorem owns_iff_minted {id : StateHandle} :
    builder.Owns id ↔ ∃ minting ∈ builder.minted, minting.handle = id := by
  constructor
  · rintro ⟨hgraph, hindex⟩
    exact ⟨⟨id, _, _⟩, mem_minted.2 ⟨hgraph, _, List.getElem?_eq_getElem hindex, rfl, rfl⟩, rfl⟩
  · rintro ⟨minting, hmem, rfl⟩
    obtain ⟨hgraph, state, hstate, _⟩ := mem_minted.1 hmem
    exact ⟨hgraph, (List.getElem?_eq_some_iff.1 hstate).1⟩

/-! ## What each operation does -/

theorem register_of_free {name : String} (h : builder.index.get? name = none)
    (predicate : Predicate V) :
    builder.register name predicate =
      pure (builder.nextId, builder.extend name predicate) := by
  rw [register, h]
  rfl

theorem register_of_taken {name : String} {id : StateHandle}
    (h : builder.index.get? name = some id) (predicate : Predicate V) :
    builder.register name predicate = Run.refuse (.duplicateState name) := by
  rw [register, h]

theorem requireOwn_of_owns {id : StateHandle} (h : builder.Owns id) :
    builder.requireOwn id = pure () := if_pos h

theorem requireOwn_of_foreign {id : StateHandle} (h : ¬ builder.Owns id) :
    builder.requireOwn id = ⟨[.reported (.foreignHandle (describe id) builder.id)],
      .refused (.unknownState (describe id))⟩ := if_neg h

theorem connect_of_owns {source target : StateHandle} (hs : builder.Owns source)
    (ht : builder.Owns target) :
    builder.connect source target = pure (builder.link source target) := by
  have hlink : builder.states.modify source.index (·.connectTo target) =
      builder.states.set source.index
        ((builder.states.get ⟨source.index, hs.2⟩).connectTo target) := by
    rw [List.modify_eq_set_getElem?, List.getElem?_eq_getElem hs.2]
    rfl
  rw [connect, requireOwn_of_owns hs, requireOwn_of_owns ht, State.nth_of_lt hs.2, link, hlink]
  rfl

theorem connect_of_foreign_source {source : StateHandle} (hs : ¬ builder.Owns source)
    (target : StateHandle) : builder.connect source target =
      ⟨[.reported (.foreignHandle (describe source) builder.id)],
        .refused (.unknownState (describe source))⟩ := by
  rw [connect, requireOwn_of_foreign hs, Run.mk_refused_bind]

theorem connect_of_foreign_target {source target : StateHandle} (hs : builder.Owns source)
    (ht : ¬ builder.Owns target) : builder.connect source target =
      ⟨[.reported (.foreignHandle (describe target) builder.id)],
        .refused (.unknownState (describe target))⟩ := by
  rw [connect, requireOwn_of_owns hs, requireOwn_of_foreign ht, pure_bind, Run.mk_refused_bind]

def graphFrom (builder : GraphBuilder V) (initial : StateHandle) : TransitionGraph V :=
  ⟨builder.id, builder.states, builder.index, initial⟩

theorem build_of_owns {initial : StateHandle} (h : builder.Owns initial) :
    (builder.build initial).outcome = .returned (builder.graphFrom initial) := by
  rw [build, requireOwn_of_owns h, State.nth_of_lt h.2]
  rfl

theorem build_of_foreign {initial : StateHandle} (h : ¬ builder.Owns initial) :
    builder.build initial = ⟨[.reported (.foreignHandle (describe initial) builder.id)],
      .refused (.unknownState (describe initial))⟩ := by
  rw [build, requireOwn_of_foreign h, Run.mk_refused_bind]

theorem build_returned {initial : StateHandle} {graph : TransitionGraph V}
    (h : (builder.build initial).outcome = .returned graph) :
    builder.Owns initial ∧ graph = builder.graphFrom initial := by
  by_cases howns : builder.Owns initial
  · rw [build_of_owns howns] at h
    cases h
    exact ⟨howns, rfl⟩
  · rw [build_of_foreign howns] at h
    cases h

/-! ## What each operation keeps -/

def Coherent (builder : GraphBuilder V) : Prop :=
  Arena.Coherent builder.id builder.states builder.index

theorem coherent_new (id : Nat) : (new id : GraphBuilder V).Coherent where
  names_nodup := List.nodup_nil
  get?_eq_some_iff name h := by simp [new]
  successors_owned state hmem := by cases hmem

theorem Owns.extend {id : StateHandle} (h : builder.Owns id) (name : String)
    (predicate : Predicate V) : (builder.extend name predicate).Owns id := by
  refine ⟨h.1, ?_⟩
  have := h.2
  rw [length_states_extend]
  omega

theorem Owns.link {id : StateHandle} (h : builder.Owns id) (source target : StateHandle) :
    (builder.link source target).Owns id := by
  refine ⟨h.1, ?_⟩
  rw [length_states_link]
  exact h.2

theorem Coherent.extend (h : builder.Coherent) {name : String}
    (hfree : builder.index.get? name = none) (predicate : Predicate V) :
    (builder.extend name predicate).Coherent := by
  have hnew := h.name_ne_of_free hfree
  constructor
  · rw [GraphBuilder.extend, List.map_append, List.map_singleton, List.nodup_append]
    refine ⟨h.names_nodup, List.nodup_singleton _, ?_⟩
    intro old hold last hlast
    obtain ⟨state, hmem, rfl⟩ := List.mem_map.1 hold
    rw [List.mem_singleton.1 hlast]
    exact hnew state hmem
  · intro key id
    change (builder.index.insert name builder.nextId).get? key = some id ↔ id.graph = builder.id ∧
      ∃ state, (builder.extend name predicate).states[id.index]? = some state ∧ state.name = key
    simp only [Named.get?_insert, getElem?_extend]
    by_cases hkey : key = name
    · -- The name is free, so only the new state bears it.
      rw [if_pos hkey, hkey]
      constructor
      · rintro ⟨rfl⟩
        exact ⟨rfl, ⟨name, predicate, []⟩, .inr ⟨rfl, rfl⟩, rfl⟩
      · rintro ⟨hgraph, state, hold | ⟨hindex, _⟩, hname⟩
        · exact absurd hname (hnew state (List.mem_of_getElem? hold))
        · cases id
          cases hgraph
          cases hindex
          rfl
    · rw [if_neg hkey, h.get?_eq_some_iff]
      constructor
      · rintro ⟨hgraph, state, hold, hname⟩
        exact ⟨hgraph, state, .inl hold, hname⟩
      · rintro ⟨hgraph, state, hold | ⟨_, rfl⟩, hname⟩
        · exact ⟨hgraph, state, hold, hname⟩
        · exact absurd hname.symm hkey
  · intro state hmem id hid
    obtain ⟨i, hi⟩ := List.mem_iff_getElem?.1 hmem
    rcases getElem?_extend.1 hi with hold | ⟨_, rfl⟩
    · exact Owns.extend (h.successors_owned state (List.mem_of_getElem? hold) id hid) name predicate
    · cases hid

theorem Coherent.link (h : builder.Coherent) (source : StateHandle) {target : StateHandle}
    (ht : builder.Owns target) : (builder.link source target).Coherent := by
  have hnames : (builder.link source target).states.map State.name =
      builder.states.map State.name := by
    rw [← map_name_minted, minted_link, map_name_minted]
  constructor
  · rw [hnames]
    exact h.names_nodup
  · intro name id
    have hbears : ∀ states : List (State V), (∃ state, states[id.index]? = some state ∧
        state.name = name) ↔ (states.map State.name)[id.index]? = some name := by simp
    rw [hbears, hnames, ← hbears]
    exact h.get?_eq_some_iff name id
  · intro state hmem id hid
    obtain ⟨i, hi⟩ := List.mem_iff_getElem?.1 hmem
    obtain ⟨old, hold, hsuccessors⟩ := getElem?_link hi
    rcases (hsuccessors id).1 hid with hbefore | ⟨_, rfl⟩
    · exact Owns.link (h.successors_owned old (List.mem_of_getElem? hold) id hbefore) source target
    · exact Owns.link ht source _

end GraphBuilder
end RuntimeContracts

import Mathlib.Data.List.Sort
import RuntimeContracts.Proofs.Automaton.Construction
import RuntimeContracts.Proofs.Automaton.Access

/-!
# The states that follow a state

The successors of a state are handles of its graph in ascending order, so the states that they name
stand in the order in which they were registered. Apart from this order, they are determined by what
was registered and which names were connected.
-/

namespace RuntimeContracts

def StateHandle.Ascending (ids : List StateHandle) : Prop :=
  ids.Pairwise fun first second => first.index < second.index

theorem StateHandle.ascending_insertAscending {id : StateHandle} {ids : List StateHandle}
    (hsame : ∀ other ∈ ids, other.graph = id.graph) (h : Ascending ids) :
    Ascending (insertAscending id ids) := by
  induction ids with
  | nil => exact List.pairwise_singleton _ _
  | cons first rest ih =>
    obtain ⟨hfirst, hrest⟩ := List.pairwise_cons.1 h
    have hgraph : id.graph = first.graph := (hsame first List.mem_cons_self).symm
    have hcompare : compare id first = compare id.index first.index := by
      rw [compare_def, hgraph, Nat.compare_eq_eq.2 rfl]
      rfl
    rw [insertAscending, hcompare]
    split
    · next hlt =>
      have hbefore : id.index < first.index := Nat.compare_eq_lt.1 hlt
      refine List.pairwise_cons.2 ⟨fun other hmem => ?_, h⟩
      rcases List.mem_cons.1 hmem with rfl | hmem
      · exact hbefore
      · exact Nat.lt_trans hbefore (hfirst other hmem)
    · exact h
    · next hgt =>
      have hafter : first.index < id.index := Nat.compare_eq_gt.1 hgt
      have hrest' := ih (fun other hmem => hsame other (List.mem_cons_of_mem _ hmem)) hrest
      refine List.pairwise_cons.2 ⟨fun other hmem => ?_, hrest'⟩
      rcases (mem_insertAscending id other rest).1 hmem with rfl | hmem
      · exact hafter
      · exact hfirst other hmem

/-- What a registration gave to the state, as opposed to the connections made since. -/
def State.label {V : Type} (state : State V) : String × Predicate V := (state.name, state.predicate)

theorem filterMap_of_map_eq {α β : Type} {f : α → Option β} {items : List α} {found : List β}
    (h : items.map f = found.map some) : items.filterMap f = found := by
  have hfilterMap := congrArg (List.filterMap id) h
  rw [List.filterMap_map, List.filterMap_map] at hfilterMap
  exact hfilterMap.trans List.filterMap_some

theorem filterMap_range_getElem? {α : Type} (items : List α) :
    (List.range items.length).filterMap (items[·]?) = items :=
  filterMap_of_map_eq (List.ext_getElem (by simp) (by simp))

namespace TransitionGraph

variable {V : Type} {graph : TransitionGraph V}

def following (graph : TransitionGraph V) (state : State V) : List (State V) :=
  state.successors.filterMap graph.state?

def Ordered (graph : TransitionGraph V) : Prop :=
  ∀ state ∈ graph.states, StateHandle.Ascending state.successors

/-- What follows a state stands in the order of registration. -/
theorem Ordered.following_sublist (h : graph.Ordered) (hgraph : graph.Coherent) {state : State V}
    (hmem : state ∈ graph.states) : (graph.following state).Sublist graph.states := by
  have howned := hgraph.successors_owned state hmem
  have hfollowing : graph.following state =
      (state.successors.map StateHandle.index).filterMap (graph.states[·]?) := by
    unfold following
    rw [List.filterMap_map]
    refine List.filterMap_congr fun id hid => ?_
    exact if_pos (howned id hid).1
  have hplaces : (state.successors.map StateHandle.index).Sublist
      (List.range graph.states.length) := by
    have hascending : (state.successors.map StateHandle.index).Pairwise (· < ·) :=
      List.pairwise_map.2 (h state hmem)
    refine List.sublist_of_subperm_of_pairwise (r := (· ≤ ·)) ?_ (hascending.imp Nat.le_of_lt)
      (List.pairwise_le_range)
    refine List.subperm_of_subset hascending.nodup fun place hplace => ?_
    obtain ⟨id, hid, rfl⟩ := List.mem_map.1 hplace
    exact List.mem_range.2 (howned id hid).2
  have hsublist := hplaces.filterMap (graph.states[·]?)
  rwa [filterMap_range_getElem?, ← hfollowing] at hsublist

def candidates (graph : TransitionGraph V) (state : State V) (v : V) : List (State V) :=
  (graph.following state).filter fun next => next.predicate.Holds v

theorem candidates_eq (state : State V) (v : V) : graph.candidates state v =
    (state.successors.filter (graph.Accepts · v)).filterMap graph.state? := by
  unfold candidates following
  rw [List.filter_filterMap, List.filterMap_filter]
  refine List.filterMap_congr fun id _ => ?_
  cases hstate : graph.state? id with
  | none => simp
  | some next => simp [Option.filter, accepts_iff hstate]

end TransitionGraph

namespace GraphBuilder

variable {V : Type}

theorem successors_ascending (id : Nat) (calls : List (Call V)) :
    ∀ state ∈ (built id calls).states, StateHandle.Ascending state.successors := by
  let Kept (builder : GraphBuilder V) : Prop := builder.Coherent ∧
    ∀ state ∈ builder.states, StateHandle.Ascending state.successors
  -- A new handle finds its place because all successors are handles of the same builder.
  suffices hkept : Kept (built id calls) from hkept.2
  refine Session.finalState_induction (motive := Kept) ?_ ⟨coherent_new id, nofun⟩ calls
  rintro call builder ⟨hcoherent, hascending⟩
  have hends := perform_ends builder call
  generalize (perform call builder).1 = final at hends ⊢
  generalize (perform call builder).2.outcome = outcome at hends
  cases hends with
  | @registered name predicate hfree =>
    refine ⟨hcoherent.extend hfree predicate, fun state hmem => ?_⟩
    rcases List.mem_append.1 hmem with hold | hnew
    · exact hascending state hold
    · rw [List.mem_singleton.1 hnew]
      exact List.Pairwise.nil
  | @connected source target hs ht =>
    refine ⟨hcoherent.link source ht, fun state hmem => ?_⟩
    obtain ⟨i, hi⟩ := List.mem_iff_getElem?.1 hmem
    simp only [link, List.getElem?_modify] at hi
    obtain ⟨old, hold, hstate⟩ := Option.map_eq_some_iff.1 hi
    have hmemOld := List.mem_of_getElem? hold
    rw [← hstate]
    split
    · refine StateHandle.ascending_insertAscending (fun other hother => ?_) (hascending old hmemOld)
      rw [(hcoherent.successors_owned old hmemOld other hother).1, ht.1]
    · exact hascending old hmemOld
  | refused call e => exact ⟨hcoherent, hascending⟩

def registered (id : Nat) (calls : List (Call V)) : List (String × Predicate V) :=
  (registrations id calls).map fun minting => (minting.name, minting.predicate)

def Names (id : Nat) (calls : List (Call V)) (handle : StateHandle) (name : String) : Prop :=
  ∃ minting ∈ registrations id calls, minting.handle = handle ∧ minting.name = name

def ConnectedByName (id : Nat) (calls : List (Call V)) (source target : String) : Prop :=
  ∃ first second, Names id calls first source ∧ Names id calls second target ∧
    Connected id calls first second

theorem registrations_eq (id : Nat) (calls : List (Call V)) :
    registrations id calls = (built id calls).minted :=
  (records_built id calls).minted_eq.symm

theorem registered_eq (id : Nat) (calls : List (Call V)) :
    registered id calls = (built id calls).states.map State.label := by
  rw [registered, registrations_eq]
  apply List.ext_getElem?
  intro i
  simp only [minted, List.getElem?_mapIdx, List.getElem?_map, Option.map_map]
  rfl

theorem mem_registrations {id : Nat} {calls : List (Call V)} {minting : Minting V} :
    minting ∈ registrations id calls ↔ minting.handle.graph = id ∧ ∃ state,
      (built id calls).states[minting.handle.index]? = some state ∧
        state.label = (minting.name, minting.predicate) := by
  rw [registrations_eq, mem_minted, (records_built id calls).id_eq]
  simp [State.label]

theorem state?_graphFrom {id : Nat} {calls : List (Call V)} {initial handle : StateHandle}
    {state : State V} : ((built id calls).graphFrom initial).state? handle = some state ↔
      handle.graph = id ∧ (built id calls).states[handle.index]? = some state := by
  unfold TransitionGraph.state?
  simp [graphFrom, (records_built id calls).id_eq]

/-- No name is registered twice. -/
theorem minting_unique {id : Nat} {calls : List (Call V)} {first second : Minting V}
    (hfirst : first ∈ registrations id calls) (hsecond : second ∈ registrations id calls)
    (hname : first.name = second.name) : first = second := by
  have hnodup := (records_built id calls).coherent.names_nodup
  rw [← map_name_minted, ← registrations_eq] at hnodup
  exact List.inj_on_of_nodup_map hnodup hfirst hsecond hname

/-- What follows a state is what was registered under the names that it was connected to. -/
theorem mem_following_iff {id : Nat} {calls : List (Call V)} {initial : StateHandle}
    {source : State V} (hmem : source ∈ (built id calls).states) {label : String × Predicate V} :
    label ∈ (((built id calls).graphFrom initial).following source).map State.label ↔
      ConnectedByName id calls source.name label.1 ∧ label ∈ registered id calls := by
  obtain ⟨place, hplace⟩ := List.mem_iff_getElem?.1 hmem
  have hrecords := records_built id calls
  have hsource : ⟨⟨id, place⟩, source.name, source.predicate⟩ ∈ registrations id calls :=
    mem_registrations.2 ⟨rfl, source, hplace, rfl⟩
  have hsuccessors := hrecords.successors_iff ⟨id, place⟩ source rfl hplace
  rw [List.mem_map]
  constructor
  · rintro ⟨next, hnext, rfl⟩
    obtain ⟨handle, hhandle, hstate⟩ := List.mem_filterMap.1 hnext
    obtain ⟨hgraph, hget⟩ := state?_graphFrom.1 hstate
    have htarget : ⟨handle, next.name, next.predicate⟩ ∈ registrations id calls :=
      mem_registrations.2 ⟨hgraph, next, hget, rfl⟩
    refine ⟨⟨⟨id, place⟩, handle, ⟨_, hsource, rfl, rfl⟩, ⟨_, htarget, rfl, rfl⟩,
      (hsuccessors handle).1 hhandle⟩, ?_⟩
    rw [registered_eq]
    exact List.mem_map_of_mem (List.mem_of_getElem? hget)
  · rintro ⟨⟨first, second, ⟨from', hfrom, rfl, hfromName⟩, ⟨target, htarget, rfl, htargetName⟩,
      hconnected⟩, hlabel⟩
    obtain ⟨minting, hminting, rfl⟩ := List.mem_map.1 hlabel
    obtain rfl := minting_unique hfrom hsource hfromName
    obtain rfl := minting_unique htarget hminting htargetName
    obtain ⟨hgraph, next, hget, hnext⟩ := mem_registrations.1 htarget
    have hhandle : target.handle ∈ source.successors := (hsuccessors _).2 hconnected
    exact ⟨next, List.mem_filterMap.2 ⟨_, hhandle, state?_graphFrom.2 ⟨hgraph, hget⟩⟩, hnext⟩

end GraphBuilder
end RuntimeContracts

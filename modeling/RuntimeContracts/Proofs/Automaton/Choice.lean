import RuntimeContracts.Proofs.Automaton.Path
import RuntimeContracts.Proofs.Automaton.Successors

/-!
# The choice of a write

The calls that built a graph say which states may follow each state. A write tests all that follow
the current one, once each and in the order of registration. What it does then depends only on how
many of them accept the candidate: it moves if one does, and is refused in two different ways if
none does or several do.
-/

namespace RuntimeContracts

namespace StateHandle

variable {ids others : List StateHandle}

theorem Ascending.nodup (h : Ascending ids) : ids.Nodup := by
  refine List.Pairwise.imp ?_ h
  rintro first second hlt rfl
  exact Nat.lt_irrefl _ hlt

theorem Ascending.eq_of_mem_iff (h : Ascending ids) (hothers : Ascending others)
    (hmem : ∀ id, id ∈ ids ↔ id ∈ others) : ids = others := by
  refine List.Perm.eq_of_pairwise (fun first second _ _ hlt hgt => ?_) h hothers
    ((List.perm_ext_iff_of_nodup h.nodup hothers.nodup).2 hmem)
  exact absurd hgt (Nat.lt_asymm hlt)

end StateHandle

namespace GraphBuilder

variable {V : Type}

def connects (source target : StateHandle) : Call V × Option StateHandle → Bool
  | (.connect source' target', none) => source' = source ∧ target' = target
  | _ => false

theorem connects_iff {source target : StateHandle} {done : Call V × Option StateHandle} :
    connects source target done = true ↔ done = (.connect source target, none) := by
  unfold connects
  split <;> simp_all

instance (id : Nat) (calls : List (Call V)) (source target : StateHandle) :
    Decidable (Connected id calls source target) :=
  decidable_of_iff ((successes id calls).any (connects source target) = true)
    (by simp [connects_iff, Connected])

/-- What was registered and then connected to from the source, in the order of registration. -/
def followers (id : Nat) (calls : List (Call V)) (source : StateHandle) : List (Minting V) :=
  (registrations id calls).filter fun minting => Connected id calls source minting.handle

theorem followers_sublist {id : Nat} {calls : List (Call V)} {source : StateHandle} :
    (followers id calls source).Sublist (registrations id calls) := List.filter_sublist

theorem registrations_ascending (id : Nat) (calls : List (Call V)) :
    StateHandle.Ascending ((registrations id calls).map Minting.handle) := by
  rw [registrations_eq, StateHandle.Ascending, List.pairwise_map, List.pairwise_iff_getElem]
  intro i j hi hj hlt
  simpa [minted] using hlt

/-- The successors of a state are the handles of what follows it. -/
theorem successors_eq_followers {id : Nat} {calls : List (Call V)} {initial source : StateHandle}
    {state : State V} (h : ((built id calls).graphFrom initial).state? source = some state) :
    state.successors = (followers id calls source).map Minting.handle := by
  have hmem : state ∈ (built id calls).states :=
    List.mem_of_getElem? (TransitionGraph.getElem?_of_state? h).2
  refine (successors_ascending id calls state hmem).eq_of_mem_iff ?_ fun target => ?_
  · exact (registrations_ascending id calls).sublist (followers_sublist.map Minting.handle)
  · rw [mem_successors_iff_connected h]
    simp only [followers, List.mem_map, List.mem_filter, decide_eq_true_iff]
    constructor
    · -- A target that is connected is a successor, hence a state of the builder.
      intro hconnected
      have hsuccessor := (mem_successors_iff_connected h target).2 hconnected
      have howns := (records_built id calls).coherent.successors_owned state hmem target hsuccessor
      obtain ⟨minting, hminting, rfl⟩ := owns_iff_minted.1 howns
      rw [← registrations_eq] at hminting
      exact ⟨minting, ⟨hminting, hconnected⟩, rfl⟩
    · rintro ⟨minting, ⟨-, hconnected⟩, rfl⟩
      exact hconnected

theorem nodup_names_followers (id : Nat) (calls : List (Call V)) (source : StateHandle) :
    ((followers id calls source).map Minting.name).Nodup := by
  have hnodup := (records_built id calls).coherent.names_nodup
  rw [← map_name_minted, ← registrations_eq] at hnodup
  exact hnodup.sublist (followers_sublist.map Minting.name)

/-- The handle of a registration leads to the state that it made. -/
theorem exists_state_of_registered {id : Nat} {calls : List (Call V)} {initial : StateHandle}
    {minting : Minting V} (h : minting ∈ registrations id calls) :
    ∃ state, ((built id calls).graphFrom initial).state? minting.handle = some state ∧
      state.name = minting.name ∧ state.predicate = minting.predicate := by
  obtain ⟨hgraph, state, hget, hlabel⟩ := mem_registrations.1 h
  exact ⟨state, state?_graphFrom.2 ⟨hgraph, hget⟩, Prod.mk.inj hlabel⟩

end GraphBuilder

namespace Minting

variable {V : Type}

def Answers (minting : Minting V) (v : V) : Prop :=
  minting.predicate.Holds v ∨ minting.predicate.Fails v

def accepting (mintings : List (Minting V)) (v : V) : List (Minting V) :=
  mintings.filter fun minting => minting.predicate.Holds v

theorem accepting_sublist {mintings : List (Minting V)} {v : V} :
    (accepting mintings v).Sublist mintings := List.filter_sublist

def tests (mintings : List (Minting V)) (v : V) : Trace :=
  mintings.flatMap fun minting => minting.predicate.tests v

end Minting

namespace TransitionGraph

variable {V : Type} {graph : TransitionGraph V} {mintings : List (Minting V)} {v : V}

def Has (graph : TransitionGraph V) (mintings : List (Minting V)) : Prop :=
  ∀ minting ∈ mintings, ∃ state, graph.state? minting.handle = some state ∧
    state.name = minting.name ∧ state.predicate = minting.predicate

theorem Has.sublist {fewer : List (Minting V)} (h : graph.Has mintings)
    (hfewer : fewer.Sublist mintings) : graph.Has fewer :=
  fun minting hmem => h minting (hfewer.subset hmem)

theorem Has.answers (h : graph.Has mintings) (hanswers : ∀ minting ∈ mintings, minting.Answers v) :
    ∀ id ∈ mintings.map Minting.handle, graph.Answers v id := by
  intro id hid
  obtain ⟨minting, hmem, rfl⟩ := List.mem_map.1 hid
  obtain ⟨state, hstate, -, hpredicate⟩ := h minting hmem
  have hanswered : minting.predicate.Holds v ∨ minting.predicate.Fails v := hanswers minting hmem
  rw [← hpredicate] at hanswered
  exact ⟨state, hstate, hanswered⟩

theorem Has.tests (h : graph.Has mintings) (v : V) :
    (mintings.map Minting.handle).flatMap (graph.tests v) = Minting.tests mintings v := by
  rw [List.flatMap_map, Minting.tests]
  refine List.flatMap_congr fun minting hmem => ?_
  obtain ⟨state, hstate, -, hpredicate⟩ := h minting hmem
  rw [TransitionGraph.tests, hstate, ← hpredicate]

theorem Has.accepting (h : graph.Has mintings) (v : V) :
    (mintings.map Minting.handle).filter (graph.Accepts · v) =
      (Minting.accepting mintings v).map Minting.handle := by
  rw [List.filter_map, Minting.accepting]
  congr 1
  refine List.filter_congr fun minting hmem => ?_
  obtain ⟨state, hstate, -, hpredicate⟩ := h minting hmem
  simp [accepts_iff hstate, hpredicate]

theorem Has.exists_states (h : graph.Has mintings) : ∃ states : List (State V),
    (mintings.map Minting.handle).map graph.state? = states.map some ∧
      states.map State.name = mintings.map Minting.name := by
  induction mintings with
  | nil => exact ⟨[], rfl, rfl⟩
  | cons minting rest ih =>
    obtain ⟨state, hstate, hname, -⟩ := h minting List.mem_cons_self
    obtain ⟨states, hstates, hnames⟩ := ih (h.sublist (List.sublist_cons_self minting rest))
    exact ⟨state :: states, by simp [hstate, hstates], by simp [hname, hnames]⟩

end TransitionGraph

namespace Stateful

variable {V : Type} [Describe V] {stateful : Stateful V}

/-- A write to a value in a state of the name, which these others may follow: it is interrupted at
the first of them that panics; otherwise all are tested, and it does what their number asks for. -/
structure Chooses (stateful : Stateful V) (source : String) (followers : List (Minting V)) (v : V)
    (written : Stateful V × Run Violation (Option Unit)) : Prop where
  interrupted : ∀ {earlier rest : List (Minting V)} {minting : Minting V} {text : String},
    followers = earlier ++ minting :: rest → (∀ other ∈ earlier, other.Answers v) →
      minting.predicate.PanicsWith v text →
        written = (stateful, ⟨Minting.tests (earlier ++ [minting]) v, .panicked text⟩)
  one : (∀ minting ∈ followers, minting.Answers v) →
    ∀ minting, Minting.accepting followers v = [minting] →
      written = ({ stateful with value := v, current := minting.handle },
        ⟨Minting.tests followers v ++ [.reported (.stateEntered source minting.name)],
          .returned (some ())⟩)
  none : (∀ minting ∈ followers, minting.Answers v) → Minting.accepting followers v = [] →
    written = (stateful,
      ⟨Minting.tests followers v, .refused (.noMatchingTransition source (describe v))⟩)
  several : (∀ minting ∈ followers, minting.Answers v) →
    2 ≤ (Minting.accepting followers v).length →
      let names := (Minting.accepting followers v).map Minting.name
      let e := Violation.ambiguousTransition source names (describe v)
      names.Nodup ∧ Diagnosis.isDefect e = true ∧
        written = (stateful, ⟨Minting.tests followers v, .refused e⟩)

def conclude (stateful : Stateful V) (source : State V) (v : V) :
    List StateHandle → Run Violation (Stateful V)
  | [] => Run.refuse (.noMatchingTransition source.name (describe v))
  | [next] => do
    let target ← stateful.graph.node next
    Run.report (.stateEntered source.name target.name)
    return { stateful with value := v, current := next }
  | several => do
    let candidates ← stateful.graph.nodes several
    Run.refuse (.ambiguousTransition source.name (candidates.map State.name) (describe v))

theorem write_eq_of_polled {source : State V} {v : V} {trace : Trace}
    {found : Client (List StateHandle)}
    (hsource : stateful.graph.state? stateful.current = some source)
    (hpolled : stateful.graph.Polled v source.successors trace found) :
    stateful.write v = (Run.call found >>= stateful.conclude source v).after trace := by
  rw [write, currentState, TransitionGraph.node_of_state? hsource, pure_bind,
    TransitionGraph.accepting_eq_of_polled hpolled, Run.after_bind]
  rfl

omit [Describe V] in
structure Stands (stateful : Stateful V) (source : State V) (followers : List (Minting V)) :
    Prop where
  current : stateful.graph.state? stateful.current = some source
  has : stateful.graph.Has followers
  successors_eq : source.successors = followers.map Minting.handle

omit [Describe V] in
theorem stands_of_graph {id : Nat} {calls : List (GraphBuilder.Call V)} {initial : StateHandle}
    {source : State V} (hgraph : stateful.graph = (GraphBuilder.built id calls).graphFrom initial)
    (hsource : stateful.graph.state? stateful.current = some source) :
    stateful.Stands source (GraphBuilder.followers id calls stateful.current) where
  current := hsource
  has minting hmem := by
    rw [hgraph]
    exact GraphBuilder.exists_state_of_registered (GraphBuilder.followers_sublist.subset hmem)
  successors_eq := GraphBuilder.successors_eq_followers (hgraph ▸ hsource)

namespace Stands

variable {source : State V} {followers : List (Minting V)} {v : V}

theorem write_of_panic (h : stateful.Stands source followers) {earlier rest : List (Minting V)}
    {minting : Minting V} {text : String} (hsplit : followers = earlier ++ minting :: rest)
    (hearlier : ∀ other ∈ earlier, other.Answers v)
    (hpanics : minting.predicate.PanicsWith v text) :
    stateful.write v = ⟨Minting.tests (earlier ++ [minting]) v, .panicked text⟩ := by
  have hsublist : (earlier ++ [minting]).Sublist followers := by
    rw [hsplit]
    exact (List.Sublist.refl earlier).append (List.singleton_sublist.2 List.mem_cons_self)
  have hhas := h.has.sublist hsublist
  have hanswers := (hhas.sublist (List.sublist_append_left earlier _)).answers hearlier
  obtain ⟨state, hstate, -, hpredicate⟩ := hhas minting (by simp)
  rw [← hpredicate] at hpanics
  have hpolled : stateful.graph.Polled v
      (earlier.map Minting.handle ++ minting.handle :: rest.map Minting.handle) _ _ :=
    .interrupted hanswers hstate hpanics
  rw [← List.map_cons, ← List.map_append, ← hsplit, ← h.successors_eq, ← List.map_singleton,
    ← List.map_append, hhas.tests] at hpolled
  rw [write_eq_of_polled h.current hpolled]
  simp [Run.panic]

theorem write_of_answers (h : stateful.Stands source followers)
    (hanswers : ∀ minting ∈ followers, minting.Answers v) :
    stateful.write v = (stateful.conclude source v
      ((Minting.accepting followers v).map Minting.handle)).after (Minting.tests followers v) := by
  have hpolled := TransitionGraph.Polled.answered (h.has.answers hanswers)
  rw [← h.successors_eq] at hpolled
  rw [write_eq_of_polled h.current hpolled, Run.call_ok, pure_bind, h.successors_eq, h.has.tests,
    h.has.accepting]

theorem conclude_one (h : stateful.Stands source followers) {minting : Minting V}
    (hmem : minting ∈ followers) : stateful.conclude source v [minting.handle] =
      ⟨[.reported (.stateEntered source.name minting.name)],
        .returned { stateful with value := v, current := minting.handle }⟩ := by
  obtain ⟨state, hstate, hname, -⟩ := h.has minting hmem
  rw [conclude, TransitionGraph.node_of_state? hstate, pure_bind, hname]
  rfl

theorem conclude_several (h : stateful.Stands source followers) {candidates : List (Minting V)}
    (hcandidates : candidates.Sublist followers) (hseveral : 2 ≤ candidates.length) :
    stateful.conclude source v (candidates.map Minting.handle) = ⟨[],
      .refused (.ambiguousTransition source.name (candidates.map Minting.name) (describe v))⟩ := by
  obtain ⟨states, hstates, hnames⟩ := (h.has.sublist hcandidates).exists_states
  match candidates with
  | [] | [_] => simp at hseveral
  | first :: second :: others =>
    change (stateful.graph.nodes ((first :: second :: others).map Minting.handle) >>= _) = _
    rw [TransitionGraph.nodes_of_states hstates, pure_bind, hnames]
    rfl

theorem chooses (h : stateful.Stands source followers) (hnodup : (followers.map Minting.name).Nodup)
    (form : Form) (v : V) :
    Chooses stateful source.name followers v (machine.attempt (form, v) stateful) where
  interrupted hsplit hearlier hpanics := by
    rw [attempt_eq, h.write_of_panic hsplit hearlier hpanics]
    rfl
  one hanswers minting hone := by
    have hmem : minting ∈ Minting.accepting followers v := by
      rw [hone]
      exact List.mem_singleton_self minting
    rw [attempt_eq, h.write_of_answers hanswers, hone, List.map_singleton,
      h.conclude_one (Minting.accepting_sublist.subset hmem)]
    rfl
  none hanswers hnone := by
    rw [attempt_eq, h.write_of_answers hanswers, hnone, List.map_nil, conclude]
    simp [Outcome.value?, Outcome.map]
  several hanswers hseveral := by
    refine ⟨hnodup.sublist (Minting.accepting_sublist.map Minting.name), rfl, ?_⟩
    rw [attempt_eq, h.write_of_answers hanswers,
      h.conclude_several Minting.accepting_sublist hseveral]
    simp [Outcome.value?, Outcome.map]

end Stands

/-- Whatever graph any calls built, and whatever writes a value on it went through, in any forms and
however they ended: the value is in a state that was registered, and its next write evaluates the
predicate of each state that this one was connected to, once and in the order of registration, until
one panics. It is accepted if one of them holds, and moves there; otherwise it changes nothing, and
its refusal tells whether none holds or several do, which is a defect and names them all. -/
theorem write_chooses_among_followers (mode : FailureMode) (id : Nat)
    (calls : List (GraphBuilder.Call V)) {initial : StateHandle} {graph : TransitionGraph V}
    (hgraph : ((GraphBuilder.built id calls).build initial).outcome = .returned graph) {v₀ : V}
    {start : Stateful V} (hstart : (create v₀ graph).outcome = .returned start)
    (writes : List (Form × V)) :
    let final := Session.finalState (machine.step mode) start writes
    ∃ source ∈ GraphBuilder.registrations id calls, source.handle = final.current ∧
      ∀ form v, Chooses final source.name (GraphBuilder.followers id calls source.handle) v
        (machine.attempt (form, v) final) := by
  intro final
  obtain ⟨howns, rfl⟩ := GraphBuilder.build_returned hgraph
  have hcoherent : ((GraphBuilder.built id calls).graphFrom initial).Coherent :=
    (GraphBuilder.records_built id calls).coherent
  obtain ⟨rfl, hsettled⟩ := start_of_create hcoherent howns hstart
  obtain ⟨hfinal, hsame⟩ : final.Settled ∧
      final.graph = (GraphBuilder.built id calls).graphFrom initial :=
    hsettled.finalState mode writes
  obtain ⟨source, hsource⟩ := hfinal.exists_source
  have hchooses := (stands_of_graph hsame hsource).chooses
    (GraphBuilder.nodup_names_followers id calls final.current)
  rw [hsame] at hsource
  obtain ⟨hcurrent, hget⟩ := GraphBuilder.state?_graphFrom.1 hsource
  exact ⟨⟨final.current, source.name, source.predicate⟩,
    GraphBuilder.mem_registrations.2 ⟨hcurrent, source, hget, rfl⟩, rfl, hchooses⟩

def doorGraph : TransitionGraph String :=
  (GraphBuilder.built 0 GraphBuilder.doorCalls).graphFrom ⟨0, 0⟩

def opened : Minting String :=
  ⟨⟨0, 0⟩, "open", .named "open" fun door => .ok (door == "open" || door == "ajar")⟩

def shut : Minting String :=
  ⟨⟨0, 1⟩, "shut", .named "shut" fun door =>
    if door = "jammed" then .error "stuck" else .ok (door == "shut" || door == "ajar")⟩

theorem finalState_door :
    Session.finalState (machine.step .panic) ⟨"open", ⟨0, 0⟩, doorGraph⟩ doorWrites =
      ⟨"ajar", ⟨0, 0⟩, doorGraph⟩ := rfl

theorem followers_door :
    GraphBuilder.followers 0 GraphBuilder.doorCalls ⟨0, 0⟩ = [opened, shut] := rfl

theorem answers_door {door : String} (h : door ≠ "jammed") :
    ∀ minting ∈ [opened, shut], minting.Answers door := by
  intro minting hmem
  rcases List.mem_pair.1 hmem with rfl | rfl
  · exact Predicate.holds_or_fails rfl
  · exact Predicate.holds_or_fails (if_neg h)

/-- After its writes the door is open, and every way to choose is left to the next one. -/
theorem door_chooses :
    let final : Stateful String := ⟨"ajar", ⟨0, 0⟩, doorGraph⟩
    let written := fun door => machine.attempt (.checked, door) final
    let tested : Trace := [.tested "open", .tested "shut"]
    ((GraphBuilder.built 0 GraphBuilder.doorCalls).build ⟨0, 0⟩).outcome = .returned doorGraph ∧
      (create "open" doorGraph).outcome = .returned ⟨"open", ⟨0, 0⟩, doorGraph⟩ ∧
      written "jammed" = (final, ⟨tested, .panicked "stuck"⟩) ∧
      written "shut" = (⟨"shut", ⟨0, 1⟩, doorGraph⟩,
        ⟨tested ++ [.reported (.stateEntered "open" "shut")], .returned (some ())⟩) ∧
      written "locked" = (final,
        ⟨tested, .refused (.noMatchingTransition "open" (describe "locked"))⟩) ∧
      written "ajar" = (final,
        ⟨tested, .refused (.ambiguousTransition "open" ["open", "shut"] (describe "ajar"))⟩) := by
  intro final written tested
  have hgraph : ((GraphBuilder.built 0 GraphBuilder.doorCalls).build ⟨0, 0⟩).outcome =
      .returned doorGraph := rfl
  have hstart : (create "open" doorGraph).outcome = .returned ⟨"open", ⟨0, 0⟩, doorGraph⟩ := rfl
  have hregistrations : GraphBuilder.registrations 0 GraphBuilder.doorCalls = [opened, shut] := rfl
  obtain ⟨source, hsource, hcurrent, hchooses⟩ :=
    write_chooses_among_followers .panic 0 GraphBuilder.doorCalls hgraph hstart doorWrites
  rw [finalState_door] at hcurrent hchooses
  obtain rfl : source = opened := by
    rw [hregistrations] at hsource
    rcases List.mem_pair.1 hsource with rfl | rfl
    · rfl
    · cases hcurrent
  rw [hcurrent, followers_door] at hchooses
  have hopened : opened.Answers "jammed" := Predicate.holds_or_fails rfl
  refine ⟨hgraph, hstart, ?_, ?_, ?_, ?_⟩
  · exact (hchooses .checked "jammed").interrupted (rfl : _ = [opened] ++ shut :: [])
      (by simpa using hopened) rfl
  · exact (hchooses .checked "shut").one (answers_door (by decide)) shut rfl
  · exact (hchooses .checked "locked").none (answers_door (by decide)) rfl
  · exact ((hchooses .checked "ajar").several (answers_door (by decide)) (by decide)).2.2

end Stateful

end RuntimeContracts

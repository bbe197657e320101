import RuntimeContracts.Proofs.Automaton.Successors
import RuntimeContracts.Proofs.Automaton.Writes

/-!
# The order of registration makes no difference

Two graphs with the same states and the same connections differ in their handles and in the order
in which they list their candidates, and in nothing else that a stateful value shows. If two values
go through the same writes on them, every write is accepted on both or refused on both.
-/

namespace RuntimeContracts

namespace TransitionGraph

variable {V : Type}

structure Tame (graph : TransitionGraph V) : Prop where
  coherent : graph.Coherent
  ordered : graph.Ordered
  answers : ∀ state ∈ graph.states, ∀ v, state.predicate.Holds v ∨ state.predicate.Fails v

structure Reorders (first second : TransitionGraph V) : Prop where
  tame : first.Tame
  tame' : second.Tame
  following_perm : ∀ state ∈ first.states, ∀ other ∈ second.states, state.name = other.name →
    ((first.following state).map State.label).Perm ((second.following other).map State.label)

variable {first second graph : TransitionGraph V}

theorem candidates_sublist (h : graph.Tame) {state : State V} (hmem : state ∈ graph.states)
    (v : V) : ((graph.candidates state v).map State.name).Sublist (graph.states.map State.name) :=
  (List.filter_sublist.trans (h.ordered.following_sublist h.coherent hmem)).map State.name

theorem Reorders.candidates_perm (h : first.Reorders second) {state other : State V}
    (hmem : state ∈ first.states) (hother : other ∈ second.states) (hname : state.name = other.name)
    (v : V) : ((first.candidates state v).map State.name).Perm
      ((second.candidates other v).map State.name) := by
  have hlabels : ∀ states : List (State V),
      ((states.map State.label).filter fun label => label.2.Holds v).map Prod.fst =
        (states.filter fun next => next.predicate.Holds v).map State.name := by
    intro states
    rw [List.filter_map, List.map_map]
    rfl
  have hperm := ((h.following_perm state hmem other hother hname).filter
    fun label => label.2.Holds v).map Prod.fst
  rw [hlabels, hlabels] at hperm
  exact hperm

end TransitionGraph

namespace Stateful

variable {V : Type} [Describe V] {stateful first second : Stateful V}

inductive Chosen (source : String) (v : V) :
    List (State V) → Outcome Violation (Stateful V) → Prop where
  | none : Chosen source v [] (.refused (.noMatchingTransition source (describe v)))
  | one {target : State V} {written : Stateful V} (hvalue : written.value = v)
      (hname : written.currentName? = some target.name) :
      Chosen source v [target] (.returned written)
  | several {candidates : List (State V)} (hseveral : 2 ≤ candidates.length) :
      Chosen source v candidates
        (.refused (.ambiguousTransition source (candidates.map State.name) (describe v)))

theorem write_chosen (h : stateful.graph.Tame) {source : State V}
    (hsource : stateful.graph.state? stateful.current = some source) (v : V) :
    Chosen source.name v (stateful.graph.candidates source v) (stateful.write v).outcome := by
  have hends := write_ends h.coherent hsource v
  rw [TransitionGraph.candidates_eq]
  generalize stateful.write v = run at hends
  cases hends with
  | @moved next target honly htarget =>
    have hcandidates : [next].filterMap stateful.graph.state? = [target] := by
      simp [htarget]
    rw [honly, hcandidates]
    exact .one rfl (currentName?_of_state? htarget)
  | unmatched hnone =>
    rw [hnone]
    exact .none
  | @ambiguous candidates hseveral hcandidates =>
    rw [filterMap_of_map_eq hcandidates]
    exact .several hseveral
  | @interrupted earlier rest id state text hsplit hstate hpanics =>
    have hmem := List.mem_of_getElem? (TransitionGraph.getElem?_of_state? hstate).2
    rcases h.answers state hmem v with hholds | hfails
    · exact absurd hholds (Predicate.not_holds_of_panicsWith hpanics)
    · exact absurd hfails (Predicate.not_fails_of_panicsWith hpanics)

/-- Two writes of the value are answered alike: both are accepted, and lead to states of one name,
or both are refused in the same way, with the same candidates in the order of each side. -/
inductive AnsweredAlike (order order' : List String) (v : V) :
    Outcome Violation (Stateful V) → Outcome Violation (Stateful V) → Prop where
  | accepted {written written' : Stateful V} (hvalue : written.value = v)
      (hvalue' : written'.value = v) (hname : written.currentName? = written'.currentName?) :
      AnsweredAlike order order' v (.returned written) (.returned written')
  | unmatched (source : String) :
      AnsweredAlike order order' v (.refused (.noMatchingTransition source (describe v)))
        (.refused (.noMatchingTransition source (describe v)))
  | ambiguous (source : String) {candidates candidates' : List String}
      (hperm : candidates.Perm candidates') (horder : candidates.Sublist order)
      (horder' : candidates'.Sublist order') :
      AnsweredAlike order order' v
        (.refused (.ambiguousTransition source candidates (describe v)))
        (.refused (.ambiguousTransition source candidates' (describe v)))

theorem Chosen.answeredAlike {source : String} {v : V} {states states' : List (State V)}
    {outcome outcome' : Outcome Violation (Stateful V)} (h : Chosen source v states outcome)
    (h' : Chosen source v states' outcome')
    (hperm : (states.map State.name).Perm (states'.map State.name)) {order order' : List String}
    (horder : (states.map State.name).Sublist order)
    (horder' : (states'.map State.name).Sublist order') :
    AnsweredAlike order order' v outcome outcome' := by
  have hlength : states.length = states'.length := by
    simpa using hperm.length_eq
  cases h with
  | none =>
    cases h' with
    | none => exact .unmatched source
    | one => cases hlength
    | several hseveral' =>
      rw [← hlength] at hseveral'
      cases hseveral'
  | @one target written hvalue hname =>
    cases h' with
    | none => cases hlength
    | @one target' written' hvalue' hname' =>
      have hsame : target.name = target'.name := by simpa using hperm
      exact .accepted hvalue hvalue' (by rw [hname, hname', hsame])
    | several hseveral' =>
      rw [← hlength, List.length_singleton] at hseveral'
      omega
  | several hseveral =>
    cases h' with
    | none =>
      rw [hlength] at hseveral
      cases hseveral
    | one =>
      rw [hlength, List.length_singleton] at hseveral
      omega
    | several hseveral' => exact .ambiguous source hperm horder horder'

structure Matches (first second : Stateful V) : Prop where
  reorders : first.graph.Reorders second.graph
  settled : first.Settled
  settled' : second.Settled
  value_eq : first.value = second.value
  name_eq : first.currentName? = second.currentName?

theorem Matches.write_alike (h : Matches first second) (v : V) :
    AnsweredAlike (first.graph.states.map State.name) (second.graph.states.map State.name) v
      (first.write v).outcome (second.write v).outcome := by
  obtain ⟨source, hsource⟩ := h.settled.exists_source
  obtain ⟨source', hsource'⟩ := h.settled'.exists_source
  have hname : source.name = source'.name := by
    have hnames := h.name_eq
    rw [currentName?_of_state? hsource, currentName?_of_state? hsource'] at hnames
    exact Option.some.inj hnames
  have hmem := List.mem_of_getElem? (TransitionGraph.getElem?_of_state? hsource).2
  have hmem' := List.mem_of_getElem? (TransitionGraph.getElem?_of_state? hsource').2
  have hchosen := write_chosen h.reorders.tame hsource v
  have hchosen' := write_chosen h.reorders.tame' hsource' v
  rw [← hname] at hchosen'
  exact hchosen.answeredAlike hchosen' (h.reorders.candidates_perm hmem hmem' hname v)
    (TransitionGraph.candidates_sublist h.reorders.tame hmem v)
    (TransitionGraph.candidates_sublist h.reorders.tame' hmem' v)

/-- A write in either form keeps the two matched. -/
theorem Matches.step (h : Matches first second) (mode : FailureMode) (request : Form × V) :
    Matches (machine.step mode request first).1 (machine.step mode request second).1 := by
  have halike := h.write_alike request.2
  rcases step_ends mode request first with ⟨written, hwrite, hstep, _⟩ | ⟨hnone, hstep, _⟩
  · rcases step_ends mode request second with
      ⟨written', hwrite', hstep', _⟩ | ⟨hnone', hstep', _⟩
    · rw [hwrite, hwrite'] at halike
      cases halike with
      | accepted hvalue hvalue' hname =>
        have hreorders := h.reorders
        rw [← graph_of_write hwrite, ← graph_of_write hwrite'] at hreorders
        rw [hstep, hstep']
        exact ⟨hreorders, h.settled.write hwrite, h.settled'.write hwrite',
          hvalue.trans hvalue'.symm, hname⟩
    · rw [hwrite] at halike
      generalize (second.write request.2).outcome = outcome at halike hnone'
      cases halike with
      | accepted => exact absurd rfl (hnone' _)
  · rcases step_ends mode request second with
      ⟨written', hwrite', hstep', _⟩ | ⟨hnone', hstep', _⟩
    · rw [hwrite'] at halike
      generalize (first.write request.2).outcome = outcome at halike hnone
      cases halike with
      | accepted => exact absurd rfl (hnone _)
    · rw [hstep, hstep']
      exact h

theorem Matches.finalState (h : Matches first second) (mode : FailureMode)
    (writes : List (Form × V)) :
    Matches (Session.finalState (machine.step mode) first writes)
      (Session.finalState (machine.step mode) second writes) := by
  induction writes generalizing first second with
  | nil => exact h
  | cons request rest ih => exact ih (h.step mode request)

theorem matches_of_create {graph graph' : TransitionGraph V} (h : graph.Reorders graph')
    {initial initial' : State V} (hinitial : graph.state? graph.initial = some initial)
    (hinitial' : graph'.state? graph'.initial = some initial')
    (hlabel : initial.label = initial'.label) (v : V) :
    (∃ first second, (create v graph).outcome = .returned first ∧
        (create v graph').outcome = .returned second ∧ first.graph = graph ∧
          second.graph = graph' ∧ first.Matches second) ∨
      (create v graph).outcome = .refused (.initialStateRejected initial.name (describe v)) ∧
        (create v graph').outcome = .refused (.initialStateRejected initial.name (describe v)) := by
  obtain ⟨hname, hpredicate⟩ := Prod.mk.inj hlabel
  have hmem := List.mem_of_getElem? (TransitionGraph.getElem?_of_state? hinitial).2
  rw [create_eq hinitial, create_eq hinitial', ← hpredicate, ← hname]
  rcases h.tame.answers initial hmem v with hholds | hfails
  · have hholds' : initial'.predicate.Holds v := hpredicate ▸ hholds
    rw [Predicate.holds_iff.1 hholds]
    refine .inl ⟨_, _, rfl, rfl, rfl, rfl, h, ?_, ?_, rfl, ?_⟩
    · exact ⟨h.tame.coherent, initial, hinitial, hholds⟩
    · exact ⟨h.tame'.coherent, initial', hinitial', hholds'⟩
    · rw [currentName?_of_state? hinitial, currentName?_of_state? hinitial', hname]
  · rw [Predicate.fails_iff.1 hfails]
    exact .inr ⟨rfl, rfl⟩

end Stateful

namespace GraphBuilder

variable {V : Type}

/-- The calls registered the same states, in whatever order, and connected the same names; the two
handles were issued for the same name. -/
structure SameByName (id id' : Nat) (calls calls' : List (Call V))
    (initial initial' : StateHandle) : Prop where
  registered_perm : (registered id calls).Perm (registered id' calls')
  connected_iff : ∀ source target,
    ConnectedByName id calls source target ↔ ConnectedByName id' calls' source target
  exists_name : ∃ name, Names id calls initial name ∧ Names id' calls' initial' name

theorem tame_graphFrom {id : Nat} {calls : List (Call V)}
    (hanswers : ∀ label ∈ registered id calls, ∀ v, label.2.Holds v ∨ label.2.Fails v)
    (initial : StateHandle) : ((built id calls).graphFrom initial).Tame where
  coherent := (records_built id calls).coherent
  ordered := successors_ascending id calls
  answers state hmem := by
    have hlabel : state.label ∈ registered id calls := by
      rw [registered_eq]
      exact List.mem_map_of_mem hmem
    exact hanswers state.label hlabel

theorem nodup_following {id : Nat} {calls : List (Call V)} {initial : StateHandle} {state : State V}
    (hmem : state ∈ (built id calls).states) :
    ((((built id calls).graphFrom initial).following state).map State.label).Nodup := by
  have hcoherent : ((built id calls).graphFrom initial).Coherent :=
    (records_built id calls).coherent
  have hordered : ((built id calls).graphFrom initial).Ordered := successors_ascending id calls
  have hsublist := (hordered.following_sublist hcoherent hmem).map State.name
  refine List.Nodup.of_map Prod.fst ?_
  rw [List.map_map]
  exact hcoherent.names_nodup.sublist hsublist

variable {id id' : Nat} {calls calls' : List (Call V)} {initial initial' : StateHandle}

theorem SameByName.reorders (h : SameByName id id' calls calls' initial initial')
    (hanswers : ∀ label ∈ registered id calls, ∀ v, label.2.Holds v ∨ label.2.Fails v) :
    ((built id calls).graphFrom initial).Reorders ((built id' calls').graphFrom initial') where
  tame := tame_graphFrom hanswers initial
  tame' := tame_graphFrom (fun label hmem => hanswers label (h.registered_perm.mem_iff.2 hmem)) _
  following_perm state hmem other hother hname := by
    refine (List.perm_ext_iff_of_nodup (nodup_following hmem) (nodup_following hother)).2 ?_
    intro label
    rw [mem_following_iff hmem, mem_following_iff hother, hname, h.connected_iff,
      h.registered_perm.mem_iff]

/-- The initial states have the same name and the same predicate. -/
theorem SameByName.exists_initial (h : SameByName id id' calls calls' initial initial') :
    ∃ state state', ((built id calls).graphFrom initial).state? initial = some state ∧
      ((built id' calls').graphFrom initial').state? initial' = some state' ∧
      state.label = state'.label := by
  obtain ⟨name, ⟨minting, hminting, rfl, rfl⟩, ⟨other, hother, rfl, hname⟩⟩ := h.exists_name
  obtain ⟨hgraph, state, hstate, hlabel⟩ := mem_registrations.1 hminting
  obtain ⟨hgraph', state', hstate', hlabel'⟩ := mem_registrations.1 hother
  refine ⟨state, state', state?_graphFrom.2 ⟨hgraph, hstate⟩,
    state?_graphFrom.2 ⟨hgraph', hstate'⟩, ?_⟩
  -- The second list of calls registered the same label, and this name only once.
  have hregistered : (minting.name, minting.predicate) ∈ registered id' calls' :=
    h.registered_perm.mem_iff.1 (List.mem_map_of_mem hminting)
  obtain ⟨same, hsame, hpair⟩ := List.mem_map.1 hregistered
  obtain ⟨hsameName, hpredicate⟩ := Prod.mk.inj hpair
  obtain rfl := minting_unique hsame hother (hsameName.trans hname.symm)
  rw [hlabel, hlabel', hsameName, hpredicate]

theorem build_of_names {name : String} (h : Names id calls initial name) :
    ((built id calls).build initial).outcome = .returned ((built id calls).graphFrom initial) := by
  obtain ⟨minting, hminting, hhandle, -⟩ := h
  rw [registrations_eq] at hminting
  exact build_of_owns (owns_iff_minted.2 ⟨minting, hminting, hhandle⟩)

theorem map_name_graphFrom : ((built id calls).graphFrom initial).states.map State.name =
    (registered id calls).map Prod.fst := by
  rw [registered_eq, List.map_map]
  rfl

variable [Describe V]

/-- The order in which states are registered is not observed. If two builders were called so that
they know the same states and the same connections by name, and no predicate panics, then both
graphs are built; a value is taken or rejected by both, in the same words; and after any writes in
any forms, the two stateful values hold the same value, name the same current state, and answer the
next write alike. Only the candidates of an ambiguous write stand in the order of each builder. -/
theorem registration_order_unobserved (h : SameByName id id' calls calls' initial initial')
    (hanswers : ∀ label ∈ registered id calls, ∀ v, label.2.Holds v ∨ label.2.Fails v) (v₀ : V) :
    ∃ graph graph', ((built id calls).build initial).outcome = .returned graph ∧
      ((built id' calls').build initial').outcome = .returned graph' ∧
      ((∃ name, (Stateful.create v₀ graph).outcome =
          .refused (.initialStateRejected name (describe v₀)) ∧
        (Stateful.create v₀ graph').outcome =
          .refused (.initialStateRejected name (describe v₀))) ∨
      ∃ start start', (Stateful.create v₀ graph).outcome = .returned start ∧
        (Stateful.create v₀ graph').outcome = .returned start' ∧
        ∀ mode writes,
          let final := Session.finalState (Stateful.machine.step mode) start writes
          let final' := Session.finalState (Stateful.machine.step mode) start' writes
          final.value = final'.value ∧
          (∃ name, final.currentName? = some name ∧ final'.currentName? = some name) ∧
          ∀ v, Stateful.AnsweredAlike ((registered id calls).map Prod.fst)
            ((registered id' calls').map Prod.fst) v (final.write v).outcome
              (final'.write v).outcome) := by
  obtain ⟨name, hinitial, hinitial'⟩ := h.exists_name
  obtain ⟨state, state', hstate, hstate', hlabel⟩ := h.exists_initial
  refine ⟨_, _, build_of_names hinitial, build_of_names hinitial', ?_⟩
  rcases Stateful.matches_of_create (h.reorders hanswers) hstate hstate' hlabel v₀ with
    ⟨start, start', hstart, hstart', hgraph, hgraph', hmatches⟩ | hrefused
  · refine .inr ⟨start, start', hstart, hstart', fun mode writes => ?_⟩
    intro final final'
    have hfinal : final.Matches final' := hmatches.finalState mode writes
    have hsame : final.graph = start.graph := (hmatches.settled.finalState mode writes).2
    have hsame' : final'.graph = start'.graph := (hmatches.settled'.finalState mode writes).2
    obtain ⟨source, hsource⟩ := hfinal.settled.exists_source
    have hname := Stateful.currentName?_of_state? hsource
    refine ⟨hfinal.value_eq, ⟨source.name, hname, hfinal.name_eq ▸ hname⟩, fun v => ?_⟩
    have halike := hfinal.write_alike v
    rwa [hsame, hsame', hgraph, hgraph', map_name_graphFrom, map_name_graphFrom] at halike
  · exact .inl ⟨state.name, hrefused⟩

def openDoor : Predicate String :=
  .named "open" fun door => .ok (door == "open" || door == "ajar")

def shutDoor : Predicate String :=
  .named "shut" fun door => .ok (door == "shut" || door == "ajar")

def openedFirst : List (Call String) :=
  [.register "open" openDoor, .register "shut" shutDoor, .connect ⟨0, 0⟩ ⟨0, 1⟩,
    .connect ⟨0, 0⟩ ⟨0, 0⟩]

theorem successes_openedFirst : successes 0 openedFirst =
    [(.register "open" openDoor, some ⟨0, 0⟩), (.register "shut" shutDoor, some ⟨0, 1⟩),
      (.connect ⟨0, 0⟩ ⟨0, 1⟩, none), (.connect ⟨0, 0⟩ ⟨0, 0⟩, none)] := rfl

/-- A second registration of a name and a connection to a foreign handle fail in between. -/
def shutFirst : List (Call String) :=
  [.register "shut" shutDoor, .register "shut" openDoor, .register "open" openDoor,
    .connect ⟨1, 1⟩ ⟨1, 1⟩, .connect ⟨0, 0⟩ ⟨1, 1⟩, .connect ⟨1, 1⟩ ⟨1, 0⟩]

theorem connectedByName_doors {id : Nat} {calls : List (Call String)} (opened shut : StateHandle)
    (hne : opened ≠ shut)
    (hnames : ∀ handle name, Names id calls handle name ↔
      handle = opened ∧ name = "open" ∨ handle = shut ∧ name = "shut")
    (hconnected : ∀ source target, Connected id calls source target ↔
      source = opened ∧ (target = opened ∨ target = shut)) (source target : String) :
    ConnectedByName id calls source target ↔
      source = "open" ∧ (target = "open" ∨ target = "shut") := by
  simp only [ConnectedByName, hnames, hconnected]
  constructor
  · grind
  · rintro ⟨rfl, rfl | rfl⟩
    · exact ⟨opened, opened, by simp⟩
    · exact ⟨opened, shut, by simp⟩

theorem sameByName_doors : SameByName 0 1 openedFirst shutFirst ⟨0, 0⟩ ⟨1, 1⟩ where
  registered_perm := List.Perm.swap ("shut", shutDoor) ("open", openDoor) []
  connected_iff source target := by
    have hfirst := successes_openedFirst
    have hsecond : successes 1 shutFirst =
        [(.register "shut" shutDoor, some ⟨1, 0⟩), (.register "open" openDoor, some ⟨1, 1⟩),
          (.connect ⟨1, 1⟩ ⟨1, 1⟩, none), (.connect ⟨1, 1⟩ ⟨1, 0⟩, none)] := rfl
    rw [connectedByName_doors ⟨0, 0⟩ ⟨0, 1⟩ (by decide),
      connectedByName_doors ⟨1, 1⟩ ⟨1, 0⟩ (by decide)]
    · simp [Names, registrations, hsecond, minting?, eq_comm, or_comm]
    · simp only [Connected, hsecond]
      grind
    · simp [Names, registrations, hfirst, minting?, eq_comm]
    · simp only [Connected, hfirst]
      grind
  exists_name := ⟨"open", ⟨⟨⟨0, 0⟩, "open", openDoor⟩, .head _, rfl, rfl⟩,
    ⟨⟨⟨1, 1⟩, "open", openDoor⟩, .tail _ (.head _), rfl, rfl⟩⟩

/-- A door that is ajar is both open and shut. The two graphs list these candidates in the order in
which their states were registered, and agree in everything else. -/
theorem doors_answer_alike :
    let first := (built 0 openedFirst).graphFrom ⟨0, 0⟩
    let second := (built 1 shutFirst).graphFrom ⟨1, 1⟩
    let start : Stateful String := ⟨"open", ⟨0, 0⟩, first⟩
    let start' : Stateful String := ⟨"open", ⟨1, 1⟩, second⟩
    SameByName 0 1 openedFirst shutFirst ⟨0, 0⟩ ⟨1, 1⟩ ∧
      (∀ label ∈ registered 0 openedFirst, ∀ v, label.2.Holds v ∨ label.2.Fails v) ∧
      (start.write "ajar").outcome =
        .refused (.ambiguousTransition "open" ["open", "shut"] (describe "ajar")) ∧
      (start'.write "ajar").outcome =
        .refused (.ambiguousTransition "open" ["shut", "open"] (describe "ajar")) ∧
      ∀ mode writes v, Stateful.AnsweredAlike ["open", "shut"] ["shut", "open"] v
        ((Session.finalState (Stateful.machine.step mode) start writes).write v).outcome
        ((Session.finalState (Stateful.machine.step mode) start' writes).write v).outcome := by
  intro first second start start'
  have hanswers : ∀ label ∈ registered 0 openedFirst, ∀ v,
      label.2.Holds v ∨ label.2.Fails v := by
    have hregistered : registered 0 openedFirst = [("open", openDoor), ("shut", shutDoor)] := rfl
    intro label hmem v
    rw [hregistered, List.mem_pair] at hmem
    rcases hmem with rfl | rfl
    · exact Predicate.holds_or_fails rfl
    · exact Predicate.holds_or_fails rfl
  refine ⟨sameByName_doors, hanswers, rfl, rfl, ?_⟩
  obtain ⟨graph, graph', hgraph, hgraph', hends⟩ :=
    registration_order_unobserved sameByName_doors hanswers "open"
  obtain rfl : first = graph := Outcome.returned.inj hgraph
  obtain rfl : second = graph' := Outcome.returned.inj hgraph'
  rcases hends with ⟨name, hrefused, -⟩ | ⟨_, _, hstart, hstart', hruns⟩
  · cases hrefused
  · obtain rfl := Outcome.returned.inj hstart
    obtain rfl := Outcome.returned.inj hstart'
    exact fun mode writes => (hruns mode writes).2.2

end GraphBuilder
end RuntimeContracts

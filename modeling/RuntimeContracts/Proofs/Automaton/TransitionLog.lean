import RuntimeContracts.Proofs.Automaton.Path
import RuntimeContracts.Proofs.Run.Traced
import RuntimeContracts.Proofs.Session.Erasure

/-!
# The log of transitions

An accepted write reports the names of the state that it leaves and of the state that it enters. The
names of a graph are distinct, so whoever reads the log of a run and looks the names up in the graph
knows every state that the value has been in.
-/

namespace RuntimeContracts

namespace Event

def isTransition (event : Event) : Bool :=
  event.level = .trace && event.message = "state transition"

def ends? (event : Event) : Option (String × String) := do
  return (← event.fields.lookup "from", ← event.fields.lookup "to")

end Event

def Trace.transitions (trace : Trace) : List Event := trace.events.filter Event.isTransition

theorem Trace.transitions_eq (trace : Trace) :
    trace.transitions = trace.traced.filter (·.message = "state transition") := by
  rw [transitions, traced, List.filter_filter]
  congr 1
  funext event
  exact Bool.and_comm _ _

def NamePath : String → List (String × String) → String → Prop
  | first, [], last => first = last
  | first, (source, target) :: rest, last => source = first ∧ NamePath target rest last

namespace TransitionGraph

variable {V : Type} {graph : TransitionGraph V}

def HasEdge (graph : TransitionGraph V) (source target : StateHandle) : Prop :=
  ∃ state, graph.state? source = some state ∧ target ∈ state.successors

/-- A look-up by the name of a state finds its handle. -/
theorem Coherent.handleOf_name (h : graph.Coherent) {id : StateHandle} {state : State V}
    (hstate : graph.state? id = some state) : graph.handleOf state.name = some id := by
  obtain ⟨hgraph, hget⟩ := getElem?_of_state? hstate
  exact (h.get?_eq_some_iff state.name id).2 ⟨hgraph, state, hget, rfl⟩

end TransitionGraph

namespace Stateful

open Session (Turn turns lastState turns_cons)

variable {V : Type} [Describe V] {stateful : Stateful V}

abbrev WriteTurn (V : Type) := Turn (Stateful V) (Form × V) Violation (Option Unit)

/-- The log of a session replays how it went from one stateful value to another: it has one
transition for each accepted write and none for the others; the names that the transitions give lead
from that of the first current state to that of the last; looked up in the graph they are the ends
of an edge, namely the states before and after the write. -/
structure Replays (start : Stateful V) (session : List (WriteTurn V)) (final : Stateful V)
    (pairs : List (String × String)) : Prop where
  once : ∀ turn ∈ session,
    turn.report.run.trace.transitions.length = if turn.accepted then 1 else 0
  log_eq : (session.flatMap fun turn => turn.report.run.trace.transitions).map Event.ends? =
    pairs.map some
  path : ∃ first last, start.currentName? = some first ∧ final.currentName? = some last ∧
    NamePath first pairs last
  unmoved : pairs = [] → final.current = start.current
  edges : ∀ pair ∈ pairs, ∃ source target, start.graph.handleOf pair.1 = some source ∧
    start.graph.handleOf pair.2 = some target ∧ start.graph.HasEdge source target
  handles : pairs.map (fun pair => (start.graph.handleOf pair.1, start.graph.handleOf pair.2)) =
    (session.filter Turn.accepted).map fun turn =>
      (some turn.before.current, some turn.report.state.current)

/-- A write either moves along an edge, and traces the move and nothing else, or does neither. -/
theorem Settled.step_logged (h : stateful.Settled) (mode : FailureMode) (request : Form × V) :
    let step := machine.step mode request stateful
    (∃ source target next, stateful.graph.state? stateful.current = some source ∧
        next ∈ source.successors ∧ stateful.graph.state? next = some target ∧
        step.1 = { stateful with value := request.2, current := next } ∧
        step.2.outcome.isReturned = true ∧
        step.2.trace.traced = [.stateEntered source.name target.name]) ∨
      (step.1 = stateful ∧ step.2.outcome.isReturned = false ∧ step.2.trace.traced = []) := by
  intro step
  obtain ⟨source, hsource⟩ := h.exists_source
  have hends := write_ends h.coherent hsource request.2
  have hstate : step.1 = (stateful.write request.2).outcome.value?.getD stateful :=
    congrArg Prod.fst (attempt_eq request stateful)
  have hrun : step.2 = (machine.attempt request stateful).2.inForm mode request.1 := rfl
  rw [attempt_eq] at hrun
  have htests : ∀ ids : List StateHandle,
      Trace.traced (ids.flatMap (stateful.graph.tests request.2)) = [] :=
    Trace.traced_flatMap fun id => by
      unfold TransitionGraph.tests
      split
      · rfl
      · exact Predicate.traced_tests _ _
  rw [hstate, hrun, Run.isReturned_inForm, Run.traced_inForm]
  generalize stateful.write request.2 = run at hends
  cases hends with
  | @moved next target honly htarget =>
    have hnext : next ∈ source.successors.filter (stateful.graph.Accepts · request.2) := by
      simp [honly]
    refine .inl ⟨source, target, next, hsource, (List.mem_filter.1 hnext).1, htarget, rfl, rfl, ?_⟩
    rw [Trace.traced_append, htests]
    rfl
  | unmatched | ambiguous | interrupted => exact .inr ⟨rfl, rfl, htests _⟩

section Replays
omit [Describe V]

variable {start next final : Stateful V} {session : List (WriteTurn V)}
  {pairs : List (String × String)} {turn : WriteTurn V}

theorem replays_nil {state : State V} (h : start.graph.state? start.current = some state) :
    Replays start [] start [] where
  once := nofun
  log_eq := rfl
  path := ⟨state.name, state.name, currentName?_of_state? h, currentName?_of_state? h, rfl⟩
  unmoved := fun _ => rfl
  edges := nofun
  handles := rfl

/-- A turn that was not accepted and traced nothing leaves the account as it is. -/
theorem Replays.idle (h : Replays start session final pairs) (haccepted : turn.accepted = false)
    (htraced : turn.report.run.trace.traced = []) :
    Replays start (turn :: session) final pairs := by
  have hquiet : turn.report.run.trace.transitions = [] := by
    rw [Trace.transitions_eq, htraced]
    rfl
  refine { h with once := fun other hmem => ?_, log_eq := ?_, handles := ?_ }
  · rcases List.mem_cons.1 hmem with rfl | hmem
    · rw [hquiet, haccepted]
      rfl
    · exact h.once other hmem
  · rw [List.flatMap_cons, hquiet]
    exact h.log_eq
  · rw [List.filter_cons_of_neg (by simp [haccepted])]
    exact h.handles

/-- A turn that was accepted and traced its move puts the move before the account. -/
theorem Replays.move (h : Replays next session final pairs) (hcoherent : start.graph.Coherent)
    (hgraph : next.graph = start.graph) {source target : State V}
    (hsource : start.graph.state? start.current = some source)
    (htarget : start.graph.state? next.current = some target)
    (hedge : next.current ∈ source.successors) (hbefore : turn.before = start)
    (hafter : turn.report.state = next) (haccepted : turn.accepted = true)
    (htraced : turn.report.run.trace.traced = [.stateEntered source.name target.name]) :
    Replays start (turn :: session) final ((source.name, target.name) :: pairs) := by
  have hlogged : turn.report.run.trace.transitions = [.stateEntered source.name target.name] := by
    rw [Trace.transitions_eq, htraced]
    rfl
  have hfrom := hcoherent.handleOf_name hsource
  have hto := hcoherent.handleOf_name htarget
  refine ⟨fun other hmem => ?_, ?_, ?_, nofun, fun pair hmem => ?_, ?_⟩
  · rcases List.mem_cons.1 hmem with rfl | hmem
    · rw [hlogged, haccepted]
      rfl
    · exact h.once other hmem
  · rw [List.flatMap_cons, hlogged, List.map_append, h.log_eq]
    rfl
  · obtain ⟨first, last, hfirst, hlast, hpath⟩ := h.path
    obtain rfl : first = target.name := by
      rw [← hgraph] at htarget
      exact Option.some.inj (hfirst.symm.trans (currentName?_of_state? htarget))
    exact ⟨source.name, last, currentName?_of_state? hsource, hlast, rfl, hpath⟩
  · rcases List.mem_cons.1 hmem with rfl | hmem
    · exact ⟨start.current, next.current, hfrom, hto, source, hsource, hedge⟩
    · rw [← hgraph]
      exact h.edges pair hmem
  · have hhandles := h.handles
    rw [hgraph] at hhandles
    rw [List.filter_cons_of_pos haccepted, List.map_cons, List.map_cons, hhandles, hfrom, hto,
      hbefore, hafter]

end Replays

/-- From a settled value, the log of any writes replays them. -/
theorem Settled.replays (h : stateful.Settled) (mode : FailureMode) (writes : List (Form × V)) :
    let session := turns (machine.step mode) stateful writes
    ∃ pairs, Replays stateful session (lastState stateful (session.map Turn.report)) pairs := by
  induction writes generalizing stateful with
  | nil =>
    obtain ⟨source, hsource⟩ := h.exists_source
    exact ⟨[], replays_nil hsource⟩
  | cons request rest ih =>
    obtain ⟨hsettled, hgraph⟩ := h.finalState mode [request]
    rw [turns_cons]
    rcases h.step_logged mode request with
      ⟨source, target, next, hsource, hedge, htarget, hstate, hreturned, htraced⟩ |
        ⟨hstate, hreturned, htraced⟩
    · have hlive : (machine.step mode request stateful).2.outcome.isAborted = false := by
        generalize (machine.step mode request stateful).2.outcome = outcome at hreturned ⊢
        cases outcome <;> first | rfl | cases hreturned
      obtain ⟨pairs, hpairs⟩ := ih hsettled
      rw [hlive]
      refine ⟨_, hpairs.move h.coherent hgraph hsource ?_ ?_ rfl rfl hreturned htraced⟩
      · change stateful.graph.state? (machine.step mode request stateful).1.current = some target
        rw [hstate]
        exact htarget
      · change (machine.step mode request stateful).1.current ∈ source.successors
        rw [hstate]
        exact hedge
    · rw [hstate]
      split
      · -- The enforced refusal aborts, and the session ends here.
        obtain ⟨source, hsource⟩ := h.exists_source
        exact ⟨[], (replays_nil hsource).idle hreturned htraced⟩
      · obtain ⟨pairs, hpairs⟩ := ih h
        exact ⟨pairs, hpairs.idle hreturned htraced⟩

/-- On a graph that any calls built, the log of a run of writes in any forms, however they end,
replays the run from the value that was created to the last one. -/
theorem transition_log_replays_run (mode : FailureMode) (id : Nat)
    (calls : List (GraphBuilder.Call V)) {initial : StateHandle} {graph : TransitionGraph V}
    (hgraph : ((GraphBuilder.built id calls).build initial).outcome = .returned graph) {v₀ : V}
    {start : Stateful V} (hstart : (create v₀ graph).outcome = .returned start)
    (writes : List (Form × V)) :
    let session := turns (machine.step mode) start writes
    start.graph = graph ∧ start.current = initial ∧
      ∃ pairs, Replays start session (lastState start (session.map Turn.report)) pairs := by
  obtain ⟨howns, rfl⟩ := GraphBuilder.build_returned hgraph
  have hcoherent : ((GraphBuilder.built id calls).graphFrom initial).Coherent :=
    (GraphBuilder.records_built id calls).coherent
  obtain ⟨rfl, hsettled⟩ := start_of_create hcoherent howns hstart
  exact ⟨rfl, rfl, hsettled.replays mode writes⟩

/-- The door stays open, is shut and is opened again, as the three accepted writes tell. -/
theorem door_log_replays_run :
    let graph := (GraphBuilder.built 0 GraphBuilder.doorCalls).graphFrom ⟨0, 0⟩
    let start : Stateful String := ⟨"open", ⟨0, 0⟩, graph⟩
    let session := turns (machine.step .panic) start doorWrites
    ((GraphBuilder.built 0 GraphBuilder.doorCalls).build ⟨0, 0⟩).outcome = .returned graph ∧
      (create "open" graph).outcome = .returned start ∧
      Replays start session (lastState start (session.map Turn.report))
        [("open", "open"), ("open", "shut"), ("shut", "open")] := by
  intro graph start session
  have hgraph : ((GraphBuilder.built 0 GraphBuilder.doorCalls).build ⟨0, 0⟩).outcome =
      .returned graph := rfl
  have hstart : (create "open" graph).outcome = .returned start := rfl
  obtain ⟨-, -, pairs, hpairs⟩ :=
    transition_log_replays_run .panic 0 GraphBuilder.doorCalls hgraph hstart doorWrites
  have hlog : (session.flatMap fun turn => turn.report.run.trace.transitions).map Event.ends? =
      [("open", "open"), ("open", "shut"), ("shut", "open")].map some := by
    decide +kernel
  obtain rfl := (List.map_inj_right fun _ _ => Option.some.inj).1 (hpairs.log_eq.symm.trans hlog)
  exact ⟨hgraph, hstart, hpairs⟩

end Stateful
end RuntimeContracts

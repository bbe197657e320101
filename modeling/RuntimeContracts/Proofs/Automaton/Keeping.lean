import RuntimeContracts.Proofs.Automaton.Access
import RuntimeContracts.Proofs.Automaton.Ledger
import RuntimeContracts.Proofs.Session.Answered

/-!
# Keeping the ledger

The ledger agrees with the workspace at every point of a session: whatever a request does to the
arenas, the ledger does on its answer.
-/

namespace RuntimeContracts

variable {V : Type}

def TransitionGraph.arena (graph : TransitionGraph V) : GraphBuilder V :=
  ⟨graph.id, graph.states, graph.index⟩

namespace Automaton

variable {work : Workspace V} {ledger : Ledger V}

namespace Workspace

def arena? (work : Workspace V) : Place → Option (GraphBuilder V)
  | .builder name => work.builders.get? name
  | .graph name => (work.graphs.get? name).map TransitionGraph.arena
  | .stateful name => (work.values.get? name).map fun stateful => stateful.graph.arena

theorem arena?_addBuilder (name : String) : (work.addBuilder name).arena? =
    Function.update work.arena? (.builder name) (some (GraphBuilder.new work.nextGraph)) := by
  funext place
  cases place <;> simp [addBuilder, arena?, Function.update_apply]

theorem arena?_setBuilder (name : String) (builder : GraphBuilder V) :
    (work.setBuilder name builder).arena? =
      Function.update work.arena? (.builder name) (some builder) := by
  funext place
  cases place <;> simp [setBuilder, arena?, Function.update_apply]

theorem arena?_dropBuilder (name : String) :
    (work.dropBuilder name).arena? = Function.update work.arena? (.builder name) none := by
  funext place
  cases place <;> simp [dropBuilder, arena?, Function.update_apply]

theorem arena?_setGraph (name : String) (graph : TransitionGraph V) :
    (work.setGraph name graph).arena? =
      Function.update work.arena? (.graph name) (some graph.arena) := by
  funext place
  cases place <;> grind [setGraph, arena?, Function.update_apply, Named.get?_insert]

theorem arena?_dropGraph (name : String) :
    (work.dropGraph name).arena? = Function.update work.arena? (.graph name) none := by
  funext place
  cases place <;> grind [dropGraph, arena?, Function.update_apply, Named.get?_erase]

theorem arena?_setStateful (name : String) (stateful : Stateful V) :
    (work.setStateful name stateful).arena? =
      Function.update work.arena? (.stateful name) (some stateful.graph.arena) := by
  funext place
  cases place <;> grind [setStateful, arena?, Function.update_apply, Named.get?_insert]

end Workspace

namespace Ledger

structure Agrees (ledger : Ledger V) (work : Workspace V) : Prop where
  valid : ledger.Valid
  created : ledger.created = work.nextGraph
  tracks : ledger.Tracks work.arena?
  held : ∀ name id, work.handles.get? name = some id →
    ∃ r ∈ ledger.registrations, r.minting.handle = id

theorem agrees_empty : Agrees (empty : Ledger V) Workspace.empty where
  valid := valid_empty
  created := rfl
  tracks := by
    have hnone : (Workspace.empty : Workspace V).arena? = fun _ => none := by
      funext place
      cases place <;> rfl
    rw [hnone]
    exact tracks_empty
  held name id hget := by cases hget

theorem Agrees.addBuilder (h : ledger.Agrees work) (name : String) :
    (ledger.opened (.builder name)).Agrees (work.addBuilder name) where
  valid := h.valid.opened _
  created := congrArg (· + 1) h.created
  tracks := by
    rw [Workspace.arena?_addBuilder, ← h.created]
    exact h.tracks.opened h.valid _
  held := h.held

theorem Agrees.register (h : ledger.Agrees work) {name : String} {builder : GraphBuilder V}
    (hbuilder : work.arena? (.builder name) = some builder) (state : String)
    (predicate : Predicate V) (handle : String) :
    (ledger.minted (.builder name) ⟨builder.nextId, state, predicate⟩).Agrees
      ((work.setBuilder name (builder.extend state predicate)).setHandle handle
        builder.nextId) := by
  have hvalid := h.valid.minted h.tracks hbuilder state predicate
  have htracks := h.tracks.minted hbuilder state predicate
  rw [minted_of_some (h.tracks.builder?_of_some hbuilder)] at hvalid htracks ⊢
  refine ⟨hvalid, h.created, ?_, ?_⟩
  · rw [← Workspace.arena?_setBuilder] at htracks
    exact htracks
  · intro other id hget
    change (work.handles.insert handle builder.nextId).get? other = some id at hget
    rw [Named.get?_insert] at hget
    split at hget
    · cases hget
      exact ⟨_, List.mem_append_right _ (List.mem_singleton_self _), rfl⟩
    · obtain ⟨r, hmem, hr⟩ := h.held other id hget
      exact ⟨r, List.mem_append_left _ hmem, hr⟩

/-- The ledger keeps up with changes that touch only the arenas. -/
theorem Agrees.rearranged (h : ledger.Agrees work) {next : Workspace V} {noted : Ledger V}
    (hcreated : noted.created = ledger.created)
    (hregistrations : noted.registrations = ledger.registrations)
    (hnext : next.nextGraph = work.nextGraph) (hhandles : next.handles = work.handles)
    (htracks : noted.Tracks next.arena?) : noted.Agrees next where
  valid := by
    constructor
    · rw [hregistrations, hcreated]
      exact h.valid.builder_lt
    · rw [hregistrations]
      exact h.valid.graph_eq
    · rw [hregistrations]
      exact h.valid.ascending
  created := by rw [hcreated, hnext, h.created]
  tracks := htracks
  held := by
    rw [hhandles, hregistrations]
    exact h.held

theorem Agrees.setBuilder (h : ledger.Agrees work) {name : String} {old builder : GraphBuilder V}
    (hold : work.arena? (.builder name) = some old) (hid : builder.id = old.id)
    (hminted : builder.minted = old.minted) : ledger.Agrees (work.setBuilder name builder) := by
  refine h.rearranged rfl rfl rfl rfl ?_
  rw [Workspace.arena?_setBuilder]
  exact h.tracks.replaced hold hid hminted

theorem Agrees.setStateful (h : ledger.Agrees work) {name : String} {old stateful : Stateful V}
    (hold : work.values.get? name = some old) (hgraph : stateful.graph = old.graph) :
    ledger.Agrees (work.setStateful name stateful) := by
  have harena : work.arena? (.stateful name) = some stateful.graph.arena := by
    rw [Workspace.arena?, hold, Option.map_some, hgraph]
  refine h.rearranged rfl rfl rfl rfl ?_
  rw [Workspace.arena?_setStateful]
  exact h.tracks.replaced harena rfl rfl

theorem Agrees.dropBuilder (h : ledger.Agrees work) (name : String) :
    (ledger.dropped (.builder name)).Agrees (work.dropBuilder name) := by
  refine h.rearranged rfl rfl rfl rfl ?_
  rw [Workspace.arena?_dropBuilder]
  exact h.tracks.dropped _

theorem Agrees.dropGraph (h : ledger.Agrees work) (name : String) :
    (ledger.dropped (.graph name)).Agrees (work.dropGraph name) := by
  refine h.rearranged rfl rfl rfl rfl ?_
  rw [Workspace.arena?_dropGraph]
  exact h.tracks.dropped _

/-- A builder becomes a graph. -/
theorem Agrees.build (h : ledger.Agrees work) {name : String} {builder : GraphBuilder V}
    (hbuilder : work.arena? (.builder name) = some builder) (initial : StateHandle)
    (graph : String) : (ledger.moved (.builder name) (.graph graph)).Agrees
      ((work.dropBuilder name).setGraph graph (builder.graphFrom initial)) := by
  refine h.rearranged rfl rfl rfl rfl ?_
  rw [Workspace.arena?_setGraph, Workspace.arena?_dropBuilder]
  exact h.tracks.moved hbuilder

/-- A graph becomes that of a stateful value. -/
theorem Agrees.create (h : ledger.Agrees work) {name : String} {stateful : Stateful V}
    (hgraph : work.graphs.get? name = some stateful.graph) (value : String) :
    (ledger.moved (.graph name) (.stateful value)).Agrees
      ((work.dropGraph name).setStateful value stateful) := by
  have harena : work.arena? (.graph name) = some stateful.graph.arena := by
    rw [Workspace.arena?, hgraph, Option.map_some]
  refine h.rearranged rfl rfl rfl rfl ?_
  rw [Workspace.arena?_setStateful, Workspace.arena?_dropGraph]
  exact h.tracks.moved harena

end Ledger

/-! ## What a request does to the ledger -/

theorem finding_of_none {τ α : Type} {find : Workspace V → Option τ} {act : τ → Step V α}
    (h : find work = none) : finding find act work = (work, pure none) := by
  rw [finding, Act.get_bind, h]
  rfl

theorem finding_of_some {τ α : Type} {find : Workspace V → Option τ} {act : τ → Step V α}
    {found : τ} (h : find work = some found) : finding find act work =
      ((act found work).1, ⟨(act found work).2.trace, (act found work).2.outcome.map some⟩) := by
  rw [finding, Act.get_bind, h]
  exact Act.bind_pure_apply (act found) some work

/-- An act that only looks at what it finds leaves the workspace as it was. -/
theorem finding_fst_of_keeps {τ α : Type} {find : Workspace V → Option τ} {act : τ → Step V α}
    (h : ∀ found, (act found work).1 = work) : (finding find act work).1 = work := by
  cases hfind : find work with
  | none => rw [finding_of_none hfind]
  | some found =>
    rw [finding_of_some hfind]
    exact h found

theorem both_found {α β : Type} {first : Option α} {second : Option β} {found : α × β}
    (h : (do return (← first, ← second)) = some found) :
    first = some found.1 ∧ second = some found.2 := by
  cases first with
  | none => cases h
  | some a =>
    cases second with
    | none => cases h
    | some b =>
      cases h
      exact ⟨rfl, rfl⟩

theorem lift_andReturn_fst {α β : Type} (run : Run Violation α) (f : α → β) :
    ((Act.lift run >>= fun a => pure (f a) : Step V β) work).1 = work := by
  rw [Act.bind_pure_apply, Act.lift_apply]

namespace Ledger

theorem Agrees.connectAll (h : ledger.Agrees work) {name : String} {builder : GraphBuilder V}
    (hbuilder : work.arena? (.builder name) = some builder)
    (pairs : List (StateHandle × StateHandle)) :
    ledger.Agrees (connectAll name builder pairs work).1 := by
  induction pairs generalizing work builder with
  | nil => exact h
  | cons pair rest ih =>
    obtain ⟨source, target⟩ := pair
    rw [Automaton.connectAll]
    by_cases hs : builder.Owns source
    · by_cases ht : builder.Owns target
      · rw [GraphBuilder.connect_of_owns hs ht]
        have hlinked : ledger.Agrees (work.setBuilder name (builder.link source target)) :=
          h.setBuilder hbuilder rfl (GraphBuilder.minted_link source target)
        refine ih hlinked ?_
        rw [Workspace.arena?_setBuilder, Function.update_self]
      · rw [GraphBuilder.connect_of_foreign_target hs ht, Act.lift_bind_of_refused rfl]
        exact h
    · rw [GraphBuilder.connect_of_foreign_source hs, Act.lift_bind_of_refused rfl]
      exact h

variable [Describe V]

theorem Agrees.attempt_register (h : ledger.Agrees work) (name state : String)
    (predicate : Predicate V) (handle : String) :
    (ledger.note (.register name state predicate handle)
        (attempt (.register name state predicate handle) work).2.outcome).Agrees
      (attempt (.register name state predicate handle) work).1 := by
  rw [Automaton.attempt]
  cases hbuilder : work.builders.get? name with
  | none =>
    rw [finding_of_none hbuilder]
    exact h
  | some builder =>
    rw [finding_of_some hbuilder]
    dsimp only
    cases hindex : builder.index.get? state with
    | none =>
      rw [GraphBuilder.register_of_free hindex]
      exact h.register hbuilder state predicate handle
    | some id =>
      rw [GraphBuilder.register_of_taken hindex, Act.lift_bind_of_refused rfl]
      exact h

theorem Agrees.attempt_connect (h : ledger.Agrees work) (name : String)
    (pairs : List (String × String)) : ledger.Agrees (attempt (.connect name pairs) work).1 := by
  rw [Automaton.attempt]
  cases hfind : (fun work : Workspace V => do
      return (← work.pairs? pairs, ← work.builders.get? name)) work with
  | none =>
    rw [finding_of_none hfind]
    exact h
  | some found =>
    obtain ⟨handles, builder⟩ := found
    have hbuilder : work.arena? (.builder name) = some builder := (both_found hfind).2
    rw [finding_of_some hfind]
    dsimp only
    rw [Act.bind_pure_apply]
    exact h.connectAll hbuilder handles

theorem Agrees.attempt_build (h : ledger.Agrees work) (name initial graph : String) :
    (ledger.note (.build name initial graph)
        (attempt (.build name initial graph) work).2.outcome).Agrees
      (attempt (.build name initial graph) work).1 := by
  rw [Automaton.attempt]
  cases hfind : (fun work : Workspace V => do
      return (← work.handles.get? initial, ← work.builders.get? name)) work with
  | none =>
    rw [finding_of_none hfind]
    exact h
  | some found =>
    obtain ⟨id, builder⟩ := found
    have hbuilder : work.arena? (.builder name) = some builder := (both_found hfind).2
    rw [finding_of_some hfind]
    dsimp only
    rw [Act.modify_bind]
    by_cases howns : builder.Owns id
    · rw [Act.lift_bind_of_returned (GraphBuilder.build_of_owns howns)]
      exact h.build hbuilder id graph
    · rw [GraphBuilder.build_of_foreign howns, Act.lift_bind_of_refused rfl]
      exact h.dropBuilder name

theorem Agrees.attempt_create (h : ledger.Agrees work) (form : Form) (name : String) (value : V)
    (stateful : String) :
    (ledger.note (.create form name value stateful)
        (attempt (.create form name value stateful) work).2.outcome).Agrees
      (attempt (.create form name value stateful) work).1 := by
  rw [Automaton.attempt]
  cases hgraph : work.graphs.get? name with
  | none =>
    rw [finding_of_none hgraph]
    exact h
  | some graph =>
    rw [finding_of_some hgraph]
    dsimp only
    rw [Act.modify_bind]
    rcases Act.lift_bind_ends (Stateful.create value graph)
        (fun created => do Act.modify (·.setStateful stateful created); return Reply.done)
        (work.dropGraph name) with ⟨created, ho, hact⟩ | ⟨_, hstate, hnone⟩
    · rw [hact]
      rw [← Stateful.graph_of_create ho] at hgraph
      exact h.create hgraph stateful
    · -- The graph is used up, although nothing is created.
      rw [hstate]
      generalize Run.outcome (Prod.snd _) = outcome at hnone ⊢
      cases outcome with
      | returned reply => exact absurd rfl (hnone reply)
      | refused e => exact h.dropGraph name
      | panicked text => exact h.dropGraph name
      | aborted text => exact h.dropGraph name

theorem Agrees.attempt_write (h : ledger.Agrees work) (form : Form) (name : String) (value : V) :
    ledger.Agrees (attempt (.write form name value) work).1 := by
  rw [Automaton.attempt]
  cases hvalue : work.values.get? name with
  | none =>
    rw [finding_of_none hvalue]
    exact h
  | some stateful =>
    rw [finding_of_some hvalue]
    dsimp only
    rcases Act.lift_bind_ends (stateful.write value)
        (fun written => do Act.modify (·.setStateful name written); return Reply.done)
        work with ⟨written, ho, hact⟩ | ⟨_, hstate, _⟩
    · rw [hact]
      exact h.setStateful hvalue (Stateful.graph_of_write ho)
    · rw [hstate]
      exact h

theorem Agrees.attempt (h : ledger.Agrees work) (request : Request V) :
    (ledger.note request (attempt request work).2.outcome).Agrees (attempt request work).1 := by
  cases request with
  | newBuilder name => exact h.addBuilder name
  | register name state predicate handle => exact h.attempt_register name state predicate handle
  | connect name pairs => exact h.attempt_connect name pairs
  | build name initial graph => exact h.attempt_build name initial graph
  | create form name value stateful => exact h.attempt_create form name value stateful
  | write form name value => exact h.attempt_write form name value
  | inspect subject handle value pretty =>
    have hsame : (Automaton.attempt (.inspect subject handle value pretty) work).1 = work := by
      refine finding_fst_of_keeps fun found => ?_
      obtain ⟨graph, id⟩ := found
      dsimp only
      cases graph.state? id with
      | none => rfl
      | some state => exact lift_andReturn_fst _ _
    rw [hsame]
    exact h
  | showStateful | statesAfter | showGraph =>
    rw [Automaton.attempt, finding_fst_of_keeps fun _ => lift_andReturn_fst _ _]
    exact h
  | compareHandles | read | currentHandle | size | initial | handleOf =>
    rw [Automaton.attempt, finding_fst_of_keeps fun _ => rfl]
    exact h

theorem note_step (mode : FailureMode) (request : Request V) :
    ledger.note request (machine.step mode request work).2.outcome =
      ledger.note request (attempt request work).2.outcome := by
  have hiff := machine.step_returned_iff mode request work
  by_cases hreply : ∃ reply, (attempt request work).2.outcome = .returned reply
  · obtain ⟨reply, ho⟩ := hreply
    rw [(hiff reply).2 ho, ho]
  · have hnone := not_exists.1 hreply
    exact note_of_not_returned (fun reply => mt (hiff reply).1 (hnone reply)) hnone request

def along (mode : FailureMode) : Ledger V → Workspace V → List (Request V) → Ledger V
  | ledger, _, [] => ledger
  | ledger, work, request :: rest =>
    let (next, run) := machine.step mode request work
    along mode (ledger.note request run.outcome) next rest

theorem Agrees.along (h : ledger.Agrees work) (mode : FailureMode) (requests : List (Request V)) :
    (ledger.along mode work requests).Agrees
      (Session.finalState (machine.step mode) work requests) := by
  induction requests generalizing ledger work with
  | nil => exact h
  | cons request rest ih =>
    have hnext := h.attempt request
    rw [← note_step mode] at hnext
    exact ih hnext

end Ledger

end Automaton
end RuntimeContracts

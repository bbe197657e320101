import RuntimeContracts.Automaton.Session
import RuntimeContracts.Constrained.Session
import RuntimeContracts.Linear.Session
import RuntimeContracts.Modal.Session
import RuntimeContracts.Proofs.Modal.Access
import RuntimeContracts.Proofs.Run.Live
import RuntimeContracts.Unique.Session

/-!
# Requests to values do not abort

Whatever is asked of constrained, linear, unique, modal and stateful values, and of the builders and
graphs of the latter, the program goes on after it.
-/

namespace RuntimeContracts

namespace Predicate

variable {V ε : Type}

@[simp] theorem live_eval (v : V) (p : Predicate V) : (p.eval v : Run ε Bool).Live := by
  rw [eval_eq, Run.live_after]
  exact Run.live_call _

theorem live_firstFailing (ps : List (Predicate V)) (v : V) :
    (firstFailing ps v : Run ε (Option (Nat × Predicate V))).Live := by
  obtain ⟨trace, found, h⟩ := exists_searched v ps
  rw [firstFailing_eq_of_searched h, Run.live_after]
  exact Run.live_call found

end Predicate

namespace Constrained

variable {V : Type} [Describe V]

theorem live_create (value : V) (constraints : List (Predicate V)) :
    (create value constraints).Live := by
  refine (Predicate.live_firstFailing constraints value).bind fun found => ?_
  rcases found with _ | ⟨index, p⟩
  · exact Run.live_pure _
  · exact Run.live_refuse _

theorem live_write (guarded : Constrained V) (value : V) : (guarded.write value).Live := by
  refine (Predicate.live_firstFailing guarded.constraints value).bind fun found => ?_
  rcases found with _ | ⟨index, p⟩
  · exact (Run.live_report _).andReturn
  · exact Run.live_refuse _

theorem safe_attempt (request : Request V) : Act.Safe (fun _ => True) (attempt request) := by
  cases request with
  | create form value constraints =>
    exact (Act.safe_set trivial).bind fun _ =>
      (Act.safe_lift (live_create value constraints)).bind fun guarded =>
        (Act.safe_set trivial).andReturn
  | write form value =>
    exact Act.safe_withObject fun guarded =>
      (Act.safe_lift (live_write guarded value)).bind fun written =>
        (Act.safe_set trivial).andReturn
  | constrain p => exact Act.safe_withObject fun guarded => (Act.safe_set trivial).andReturn
  | takeValue => exact Act.safe_withObject fun guarded => (Act.safe_set trivial).andReturn
  | read => exact Act.safe_withObject fun guarded => Act.safe_pure _
  | showDebug pretty => exact Act.safe_withObject fun guarded => Act.safe_pure _

end Constrained

namespace Linear

variable {V : Type} [Describe V]

theorem live_enter (value : V) (strictness : Strictness) (sequence : List (Predicate V)) :
    (enter value strictness sequence).Live := by
  unfold enter
  cases sequence with
  | nil => exact Run.live_pure _
  | cons head rest =>
    refine (Predicate.live_eval value head).bind fun accepted => ?_
    cases accepted with
    | true => exact Run.live_pure _
    | false => exact Run.live_refuse _

theorem live_write (linear : Linear V) (value : V) : (linear.write value).Live := by
  unfold write
  cases linear.remaining with
  | nil =>
    cases linear.strictness with
    | exact => exact Run.live_refuse _
    | inexact => exact Run.live_pure _
  | cons head rest =>
    refine (Predicate.live_eval value head).bind fun accepted => ?_
    cases accepted with
    | true => exact (Run.live_report _).andReturn
    | false => exact Run.live_refuse _

theorem safe_attempt (request : Request V) : Act.Safe (fun _ => True) (attempt request) := by
  cases request with
  | new value strictness sequence => exact (Act.safe_set trivial).andReturn
  | enter form value strictness sequence =>
    exact (Act.safe_set trivial).bind fun _ =>
      (Act.safe_lift (live_enter value strictness sequence)).bind fun linear =>
        (Act.safe_set trivial).andReturn
  | write form value =>
    exact Act.safe_withObject fun linear =>
      (Act.safe_lift (live_write linear value)).bind fun written =>
        (Act.safe_set trivial).andReturn
  | read => exact Act.safe_withObject fun linear => Act.safe_pure _
  | showDebug pretty => exact Act.safe_withObject fun linear => Act.safe_pure _

end Linear

namespace Unique

variable {V ε : Type}

theorem live_read (unique : Unique V) : unique.read.Live := by
  unfold read
  cases unique.slot with
  | none => exact Run.live_refuse _
  | some value => exact Run.live_pure _

theorem live_fill (unique : Unique V) (value : V) : (unique.fill value : Run ε _).Live := by
  unfold fill
  split
  · exact (Run.live_report _).andReturn
  · exact Run.live_pure _

theorem safe_withSlot {α : Type} {I : Slots V → Prop} (slot : String)
    {act : Unique V → Act (Slots V) Violation α} (h : ∀ unique, Act.Safe I (act unique)) :
    Act.Safe I (withSlot slot act) := by
  refine Act.safe_get.bind fun slots => ?_
  cases slots.get? slot with
  | none => exact Act.safe_pure none
  | some unique => exact (h unique).andReturn

def Request.target? : Request V → Option String
  | .new slot _ | .empty slot | .read _ slot | .fill slot _ => some slot
  | .copy _ target => some target
  | .isEmpty _ | .equal .. | .showDebug .. => none

variable [Describe V] [DecidableEq V]

/-- A request changes nothing but its target. -/
theorem safe_of_target {I : Slots V → Prop} {request : Request V}
    (h : ∀ target ∈ request.target?, ∀ slots unique, I slots → I (slots.insert target unique)) :
    Act.Safe I (attempt request) := by
  have hinsert : ∀ target ∈ request.target?, ∀ unique,
      Act.Safe I (Act.modify (·.insert target unique) : Act (Slots V) Violation Unit) :=
    fun target htarget unique => Act.safe_modify fun slots hslots =>
      h target htarget slots unique hslots
  cases request with
  | new slot value => exact (hinsert slot rfl _).andReturn
  | empty slot => exact (hinsert slot rfl _).andReturn
  | read form slot =>
    exact safe_withSlot slot fun unique =>
      (Act.safe_lift (live_read unique)).bind fun emptied => (hinsert slot rfl _).andReturn
  | fill slot value =>
    exact safe_withSlot slot fun unique =>
      (Act.safe_lift (live_fill unique value)).bind fun filled => (hinsert slot rfl _).andReturn
  | isEmpty slot => exact safe_withSlot slot fun unique => Act.safe_pure _
  | copy slot target => exact safe_withSlot slot fun unique => (hinsert target rfl _).andReturn
  | equal slot other =>
    refine Act.safe_get.bind fun first => Act.safe_get.bind fun second => ?_
    split
    · exact Act.safe_pure _
    · exact Act.safe_pure _
  | showDebug slot pretty => exact safe_withSlot slot fun unique => Act.safe_pure _

theorem safe_attempt (request : Request V) : Act.Safe (fun _ => True) (attempt request) :=
  safe_of_target fun _ _ _ _ _ => trivial

end Unique

namespace Modal

variable {V : Type} [Describe V]

theorem WriteEnd.live {modal final : Modal V} {v : V} {outcome : Outcome Violation Unit}
    (h : WriteEnd modal v final outcome) : outcome.isAborted = false := by
  cases h <;> rfl

theorem ReadEnd.live {modal final : Modal V} {outcome : Outcome Violation V}
    (h : ReadEnd modal final outcome) : outcome.isAborted = false := by
  cases h <;> rfl

theorem safe_write (v : V) : Act.Safe (fun _ => True) (write v) :=
  fun modal _ => ⟨trivial, (write_ends modal v).live⟩

theorem safe_read : Act.Safe (fun _ => True) (read : Act (Modal V) Violation V) :=
  fun modal _ => ⟨trivial, (read_ends modal).live⟩

omit [Describe V] in
theorem safe_onModal {ε α : Type} {act : Act (Modal V) ε α} (h : Act.Safe (fun _ => True) act) :
    Act.Safe (fun _ => True) (onModal act) :=
  Act.safe_withObject fun modal _ _ => ⟨trivial, (h modal trivial).2⟩

theorem safe_attempt (request : Request V) : Act.Safe (fun _ => True) (attempt request) := by
  cases request with
  | new value conditions => exact (Act.safe_set trivial).andReturn
  | write form value => exact safe_onModal (safe_write value).andReturn
  | read form => exact safe_onModal safe_read.andReturn
  | attach condition => exact safe_onModal (Act.safe_modify fun _ _ => trivial).andReturn
  | showDebug pretty => exact safe_onModal Act.safe_get.andReturn
  | describeCondition condition pretty => exact Act.safe_pure _

end Modal

namespace State

variable {V ε : Type}

theorem live_nth (states : List (State V)) (index : Nat) :
    (nth states index : Run ε (State V)).Live := by
  unfold nth
  split
  · exact Run.live_pure _
  · exact Run.live_panic _

end State

namespace GraphBuilder

variable {V : Type}

theorem live_register (builder : GraphBuilder V) (name : String) (predicate : Predicate V) :
    (builder.register name predicate).Live := by
  unfold register
  split
  · exact Run.live_refuse _
  · exact Run.live_pure _

theorem live_requireOwn (builder : GraphBuilder V) (id : StateHandle) :
    (builder.requireOwn id).Live := by
  unfold requireOwn
  split
  · exact Run.live_pure _
  · exact (Run.live_report _).bind fun _ => Run.live_refuse _

theorem live_connect (builder : GraphBuilder V) (source target : StateHandle) :
    (builder.connect source target).Live :=
  (live_requireOwn builder source).bind fun _ => (live_requireOwn builder target).bind fun _ =>
    (State.live_nth _ _).andReturn

theorem live_build (builder : GraphBuilder V) (initial : StateHandle) :
    (builder.build initial).Live :=
  (live_requireOwn builder initial).bind fun _ => (State.live_nth _ _).bind fun _ =>
    (Run.live_report _).andReturn

end GraphBuilder

namespace TransitionGraph

variable {V ε : Type}

theorem live_node (graph : TransitionGraph V) (id : StateHandle) :
    (graph.node id : Run ε (State V)).Live := State.live_nth _ _

theorem live_nodes (graph : TransitionGraph V) (ids : List StateHandle) :
    (graph.nodes ids : Run ε (List (State V))).Live := by
  induction ids with
  | nil => exact Run.live_pure _
  | cons id rest ih => exact (live_node graph id).bind fun _ => ih.andReturn

theorem live_statesAfter (graph : TransitionGraph V) (id : StateHandle) :
    (graph.statesAfter id : Run ε (List (State V))).Live := by
  unfold statesAfter
  split
  · exact Run.live_pure _
  · exact live_nodes graph _

theorem live_accepting (graph : TransitionGraph V) (v : V) (ids : List StateHandle) :
    (graph.accepting v ids : Run ε (List StateHandle)).Live := by
  induction ids with
  | nil => exact Run.live_pure _
  | cons id rest ih =>
    exact (live_node graph id).bind fun state =>
      (Predicate.live_eval v state.predicate).bind fun _ => ih.andReturn

theorem live_shape (graph : TransitionGraph V) : (graph.shape : Run ε Shape).Live :=
  (live_node graph graph.initial).andReturn

end TransitionGraph

namespace Stateful

variable {V ε : Type} [Describe V]

theorem live_create (value : V) (graph : TransitionGraph V) : (create value graph).Live := by
  refine (graph.live_node graph.initial).bind fun initial =>
    (Predicate.live_eval value initial.predicate).bind fun accepted => ?_
  cases accepted with
  | true => exact Run.live_pure _
  | false => exact Run.live_refuse _

theorem live_write (stateful : Stateful V) (value : V) : (stateful.write value).Live := by
  refine (stateful.graph.live_node stateful.current).bind fun source =>
    (stateful.graph.live_accepting value source.successors).bind fun accepting => ?_
  split
  · exact Run.live_refuse _
  · exact (stateful.graph.live_node _).bind fun _ => (Run.live_report _).andReturn
  · exact (stateful.graph.live_nodes _).bind fun _ => Run.live_refuse _

theorem live_shape (stateful : Stateful V) : (stateful.shape : Run ε Shape).Live :=
  (stateful.graph.live_node stateful.current).andReturn

end Stateful

namespace Automaton

variable {V : Type}

theorem safe_modify (change : Workspace V → Workspace V) :
    Act.Safe (fun _ => True) (Act.modify change : Step V Unit) :=
  Act.safe_modify fun _ _ => trivial

theorem safe_finding {τ α : Type} {find : Workspace V → Option τ} {act : τ → Step V α}
    (h : ∀ found, Act.Safe (fun _ => True) (act found)) :
    Act.Safe (fun _ => True) (finding find act) := by
  refine Act.safe_get.bind fun work => ?_
  cases find work with
  | none => exact Act.safe_pure none
  | some found => exact (h found).andReturn

theorem safe_connectAll (name : String) (pairs : List (StateHandle × StateHandle))
    (builder : GraphBuilder V) : Act.Safe (fun _ => True) (connectAll name builder pairs) := by
  induction pairs generalizing builder with
  | nil => exact Act.safe_pure _
  | cons pair rest ih =>
    exact (Act.safe_lift (builder.live_connect pair.1 pair.2)).bind fun connected =>
      (safe_modify _).bind fun _ => ih connected

variable [Describe V]

theorem safe_attempt (request : Request V) : Act.Safe (fun _ => True) (attempt request) := by
  cases request with
  | newBuilder name => exact (safe_modify _).andReturn
  | register name state predicate handle =>
    exact safe_finding fun builder => (Act.safe_lift (builder.live_register _ _)).bind fun _ =>
      (safe_modify _).bind fun _ => (safe_modify _).andReturn
  | connect name pairs =>
    exact safe_finding fun found => (safe_connectAll name found.1 found.2).andReturn
  | build name initial graph =>
    exact safe_finding fun found => (safe_modify _).bind fun _ =>
      (Act.safe_lift (found.2.live_build found.1)).bind fun _ => (safe_modify _).andReturn
  | create form name value stateful =>
    exact safe_finding fun graph => (safe_modify _).bind fun _ =>
      (Act.safe_lift (Stateful.live_create value graph)).bind fun _ => (safe_modify _).andReturn
  | write form name value =>
    exact safe_finding fun stateful => (Act.safe_lift (stateful.live_write value)).bind fun _ =>
      (safe_modify _).andReturn
  | showStateful name pretty =>
    exact safe_finding fun stateful => (Act.safe_lift stateful.live_shape).andReturn
  | statesAfter subject handle =>
    exact safe_finding fun found => (Act.safe_lift (found.1.live_statesAfter found.2)).andReturn
  | inspect subject handle value pretty =>
    refine safe_finding fun found => ?_
    dsimp only
    split
    · exact Act.safe_pure _
    · next state _ =>
      exact (Act.safe_lift (Predicate.live_eval value state.predicate)).andReturn
  | showGraph subject pretty =>
    exact safe_finding fun graph => (Act.safe_lift graph.live_shape).andReturn
  | compareHandles | read | currentHandle | size | initial | handleOf =>
    exact safe_finding fun _ => Act.safe_pure _

end Automaton

end RuntimeContracts

import RuntimeContracts.Behaviour.Session
import RuntimeContracts.Call.Session
import RuntimeContracts.Proofs.Call.Pipeline
import RuntimeContracts.Proofs.Run.Live

/-!
# Requests to callables do not abort

A contracted call aborts the program only if it panics twice. A behaviour never does: it would have
to wait for a lock that it holds itself, but between two requests nobody holds a lock.
-/

namespace RuntimeContracts

namespace CallContract

variable {A R ε : Type} [Describe A]

theorem Works.live {contract : CallContract A R ε} {args : A} {work : Run (CallError ε) R}
    (h : contract.Works args work) : work.Live := by
  cases h <;> rfl

theorem live_invoke {contract : CallContract A R ε} {args : A} (h : ¬ contract.PanicsTwice args) :
    (contract.invoke args).Live := by
  obtain ⟨run, hrun⟩ := exists_performs h
  rw [invoke_eq_of_performs hrun]
  cases hrun with
  | cleansUp hwork hafter => exact hwork.live
  | cleanupPanics hwork hcalm hafter => rfl

/-- The request calls nothing that would panic twice. -/
def Calm : Request A R ε → Option (CallContract A R ε) → Prop
  | .invoke _ args, some contract => ¬ contract.PanicsTwice args
  | _, _ => True

omit [Describe A] in
theorem safe_changing (change : CallContract A R ε → CallContract A R ε) :
    Act.Safe (fun _ => True) (changing change) :=
  Act.safe_withObject fun _ => (Act.safe_set trivial).andReturn

theorem live_attempt {request : Request A R ε} {s : Option (CallContract A R ε)}
    (h : Calm request s) : (attempt request s).2.Live := by
  cases request with
  | new target | newTotal target => rfl
  | withTarget target => exact (safe_changing (·.withTarget target) s trivial).2
  | addBefore hook => exact (safe_changing (·.addBefore hook) s trivial).2
  | addAfter hook => exact (safe_changing (·.addAfter hook) s trivial).2
  | require p => exact (safe_changing (·.require p) s trivial).2
  | ensure p => exact (safe_changing (·.ensure p) s trivial).2
  | invoke form args =>
    cases s with
    | none => rfl
    | some contract =>
      have hinvoke : Act.Safe (fun _ => True) (Act.lift (contract.invoke args) :
          Step A R ε R) := Act.safe_lift (live_invoke h)
      exact (hinvoke.andReturn.andReturn (some contract) trivial).2
  | showDebug pretty =>
    cases s with
    | none => rfl
    | some contract => rfl

end CallContract

namespace Routine

variable {A ε : Type}

theorem live_run {work : A → Run Empty Unit} (h : ∀ args, (work args).Live) (routine : Routine)
    (args : Option A) : (routine.run work args : Run ε Unit).Live := by
  induction routine generalizing args with
  | finish => exact Run.live_pure _
  | panic text => exact Run.live_panic _
  | say entry next ih => exact ih args
  | callJob next ih =>
    cases args with
    | none => exact ih _ none
    | some args =>
      have hjob := h args
      rw [run]
      split
      · exact ih _ none
      · exact ih _ none
      · next text ho =>
        rw [Run.Live, ho] at hjob
        cases hjob
      · next e _ => cases e

end Routine

def Locks.Free (locks : Locks) : Prop := ∀ mutex ∈ locks, mutex.held = false

namespace Locks

theorem Free.lockAt {locks : Locks} (h : locks.Free) (lock : Nat) :
    (locks.lockAt lock).held = false := by
  unfold Locks.lockAt
  cases hlock : locks[lock]? with
  | none => simp [List.getD, hlock, Mutex.new]
  | some mutex =>
    have hmem := h mutex (List.mem_of_getElem? hlock)
    simpa [List.getD, hlock] using hmem

theorem Free.append_new {locks : Locks} (h : locks.Free) : Free (locks ++ [Mutex.new]) := by
  intro mutex hmem
  rcases List.mem_append.1 hmem with hold | hnew
  · exact h mutex hold
  · rw [List.mem_singleton.1 hnew]
    rfl

theorem Free.set {locks : Locks} (h : locks.Free) (lock : Nat) {mutex : Mutex}
    (hmutex : mutex.held = false) : Free (locks.set lock mutex) := by
  intro other hmem
  rcases List.mem_or_eq_of_mem_set hmem with hold | rfl
  · exact h other hold
  · exact hmutex

end Locks

namespace ExecutionContext

variable {A ε : Type}

theorem safe_run {work : A → Run Empty Unit} (h : ∀ args, (work args).Live) (args : A)
    (context : ExecutionContext) :
    Act.Safe Locks.Free (context.run work args : Act Locks ε Unit) := by
  intro locks hfree
  cases context with
  | free routine => exact ⟨hfree, routine.live_run h (some args)⟩
  | locked lock =>
    simp only [run, Mutex.acquire_of_not_held (hfree.lockAt lock)]
    exact ⟨hfree.set lock (Mutex.held_release _ _), Routine.callOnce.live_run h (some args)⟩

end ExecutionContext

namespace Declaration

variable {A : Type}

theorem live_finalize (members : Declaration) (context : ExecutionContext)
    (behaviours : Named (Behaviour A)) : (members.finalize context behaviours).2.Live := by
  unfold finalize
  cases members.firstBare with
  | some name => rfl
  | none => rfl

end Declaration

namespace Behaviour

variable {A : Type}

def Roster.Unlocked (roster : Roster A) : Prop := roster.locks.Free

theorem unlocked_empty : (Roster.empty : Roster A).Unlocked := by
  intro mutex hmem
  cases hmem

theorem safe_insert (id : String) (behaviour : Behaviour A) :
    Act.Safe Roster.Unlocked (Act.modify (Roster.insert id behaviour) : Step A Unit) :=
  Act.safe_modify fun _ hfree => hfree

theorem safe_makeContext (kind : ContextKind) :
    Act.Safe Roster.Unlocked (makeContext kind : Step A ExecutionContext) := by
  cases kind with
  | free routine => exact Act.safe_pure _
  | locked =>
    refine Act.safe_get_bind fun roster hfree => (Act.safe_set ?_).andReturn
    exact Locks.Free.append_new hfree

theorem safe_withBehaviour {α : Type} (id : String) {act : Behaviour A → Step A α}
    (h : ∀ behaviour, Act.Safe Roster.Unlocked (act behaviour)) :
    Act.Safe Roster.Unlocked (withBehaviour id act) := by
  refine Act.safe_get.bind fun roster => ?_
  cases roster.behaviours.get? id with
  | none => exact Act.safe_pure none
  | some behaviour => exact (h behaviour).andReturn

theorem safe_finalizeAs (origin : Origin) (members : Declaration) (context : ExecutionContext) :
    Act.Safe Roster.Unlocked (finalizeAs origin members context : Step A Nat) := by
  intro roster hfree
  rw [finalizeAs_apply]
  exact ⟨hfree, Run.live_after.2 (members.live_finalize context roster.behaviours)⟩

theorem safe_finalizeIn (kind : ContextKind) (origin : Origin) (members : Declaration) :
    Act.Safe Roster.Unlocked (finalizeIn kind origin members : Step A Nat) :=
  (safe_makeContext kind).bind fun context => safe_finalizeAs origin members context

variable [Describe A]

theorem live_runBody (behaviour : Behaviour A) (args : A) : (behaviour.runBody args).Live :=
  (Run.live_emit _).bind fun _ => Run.live_call _

theorem safe_invoke (behaviour : Behaviour A) (args : A) :
    Act.Safe Locks.Free (behaviour.invoke args) := by
  unfold invoke
  cases behaviour.context with
  | none => exact Act.safe_lift (Run.live_refuse _)
  | some context => exact context.safe_run behaviour.live_runBody args

theorem safe_attempt (request : Request A) : Act.Safe Roster.Unlocked (attempt request) := by
  cases request with
  | new id name body => exact (safe_insert _ _).andReturn
  | inject id kind =>
    exact safe_withBehaviour id fun behaviour => (safe_makeContext kind).bind fun context =>
      (safe_insert _ _).andReturn
  | invoke form id args =>
    have hinvoke : ∀ behaviour : Behaviour A, Act.Safe Roster.Unlocked
        (Act.within Roster.locks Roster.setLocks (behaviour.invoke args) : Step A Unit) :=
      fun behaviour roster hfree => behaviour.safe_invoke args roster.locks hfree
    exact safe_withBehaviour id fun behaviour => (hinvoke behaviour).andReturn
  | name id => exact safe_withBehaviour id fun behaviour => Act.safe_pure _
  | showDebug id pretty => exact safe_withBehaviour id fun behaviour => Act.safe_pure _
  | finalize form origin kind members =>
    refine Act.safe_get.bind fun roster => ?_
    split
    · exact (safe_finalizeIn kind origin members).andReturn
    · exact Act.safe_pure _
  | runThreads kind threads jobs => exact Act.safe_pure _

end Behaviour
end RuntimeContracts

import RuntimeContracts.Proofs.Behaviour.History

/-!
# Locked contexts in place of inline ones

A caller that works alone cannot tell a locked context from an inline one, however the locks are
shared between behaviours. Every lock is free between two requests, and one that a panic has
poisoned is acquired like any other, so a request does what it would do with inline contexts in the
place of all locked ones.
-/

namespace RuntimeContracts

namespace Named

variable {α β : Type}

def map (f : α → β) (objects : Named α) : Named β :=
  ⟨objects.entries.map fun entry => (entry.1, f entry.2)⟩

@[simp] theorem get?_map (f : α → β) (objects : Named α) (name : String) :
    (objects.map f).get? name = (objects.get? name).map f := by
  unfold map get?
  induction objects.entries with
  | nil => rfl
  | cons entry rest ih =>
    by_cases hname : entry.1 = name
    · simp [find, hname]
    · simpa [find, hname] using ih

@[simp] theorem map_insert (f : α → β) (objects : Named α) (name : String) (a : α) :
    (objects.insert name a).map f = (objects.map f).insert name (f a) := by
  unfold map insert
  refine congrArg Named.mk ?_
  induction objects.entries with
  | nil => rfl
  | cons entry rest ih =>
    by_cases hname : entry.1 = name
    · simp [replace, hname]
    · simpa [replace, hname] using ih

end Named

def ExecutionContext.inlined (context : ExecutionContext) : ExecutionContext :=
  .free context.routine

namespace Behaviour

variable {A : Type}

def inlined (behaviour : Behaviour A) : Behaviour A :=
  { behaviour with context := behaviour.context.map ExecutionContext.inlined }

@[simp] theorem shape_inlined (behaviour : Behaviour A) :
    behaviour.inlined.shape = behaviour.shape := by
  simp [shape, hasContext, inlined]

end Behaviour

theorem Declaration.map_injectAll {A : Type} (context : ExecutionContext) (ids : List String)
    (behaviours : Named (Behaviour A)) :
    (injectAll context ids behaviours).map Behaviour.inlined =
      injectAll context.inlined ids (behaviours.map Behaviour.inlined) := by
  induction ids generalizing behaviours with
  | nil => rfl
  | cons id rest ih =>
    rw [injectAll, injectAll, Named.get?_map]
    cases behaviours.get? id with
    | none => exact ih behaviours
    | some behaviour =>
      have hrest := ih (behaviours.insert id (behaviour.inject context))
      rw [Named.map_insert] at hrest
      exact hrest

namespace Behaviour

variable {A α β : Type}

/-! ## Requests that share contexts -/

def ContextKind.inlined : ContextKind → ContextKind
  | .free routine => .free routine
  | .locked => .free Routine.callOnce

/-- The same request with an inline context in the place of a locked one. The threads of a run share
their context, so it stays as it is. -/
def Request.inlined : Request A → Request A
  | .inject id kind => .inject id kind.inlined
  | .finalize form origin kind members => .finalize form origin kind.inlined members
  | request => request

variable [Describe A]

def attemptWith (provide : ContextKind → Step A ExecutionContext) :
    Request A → Step A (Option Reply)
  | .inject id kind => withBehaviour id fun behaviour => do
    let context ← provide kind
    Act.modify (·.insert id (behaviour.inject context))
    return .done
  | .finalize _ origin kind members => do
    if (← Act.get).hasAll members.behaviourIds then
      return some (.count (← provide kind >>= finalizeAs origin members))
    else
      return none
  | request => attempt request

theorem attemptWith_makeContext (request : Request A) :
    attemptWith makeContext request = attempt request := by
  cases request <;> rfl

/-- A request may name the lock of a context that is there already, to take that one where it would
make a locked context. -/
structure Use (A : Type) where
  request : Request A
  lock? : Option Nat

def obtainContext : Option Nat → ContextKind → Step A ExecutionContext
  | some lock, .locked => return .locked lock
  | _, kind => makeContext kind

def serve (use : Use A) : Step A (Option Reply) :=
  attemptWith (obtainContext use.lock?) use.request

def sharing : Machine (Roster A) (Use A) Violation Reply :=
  ⟨serve, fun use => use.request.form⟩

/-- Without a named lock, every request makes its context. -/
theorem serve_none (request : Request A) : serve ⟨request, none⟩ = attempt request :=
  attemptWith_makeContext request

def Use.inlined (use : Use A) : Request A := use.request.inlined

/-! ## A request does what it does in inline contexts -/

def Roster.inlined (roster : Roster A) : Roster A :=
  ⟨roster.behaviours.map Behaviour.inlined, []⟩

/-- With all locks free, the one act does what the other does to behaviours in inline contexts, and
leaves all locks free. -/
def ActsAs (act inlined : Step A α) : Prop :=
  ∀ roster, roster.Unlocked →
    (act roster).1.Unlocked ∧ inlined roster.inlined = ((act roster).1.inlined, (act roster).2)

namespace ActsAs

omit [Describe A]

theorem lift (run : Run Violation α) : ActsAs (Act.lift run : Step A α) (Act.lift run) :=
  fun _ hfree => ⟨hfree, rfl⟩

theorem pure (a : α) : ActsAs (pure a : Step A α) (pure a) := lift _

theorem bind {act inlined : Step A α} {next nextInlined : α → Step A β} (h : ActsAs act inlined)
    (hnext : ∀ a, ActsAs (next a) (nextInlined a)) :
    ActsAs (act >>= next) (inlined >>= nextInlined) := by
  intro roster hfree
  obtain ⟨hfree, hact⟩ := h roster hfree
  have ho : (inlined roster.inlined).2.outcome = (act roster).2.outcome := by rw [hact]
  cases houtcome : (act roster).2.outcome with
  | returned a =>
    obtain ⟨hafter, hrest⟩ := hnext a (act roster).1 hfree
    rw [Act.bind_apply_of_returned houtcome, Act.bind_apply_of_returned (ho.trans houtcome), hact,
      hrest]
    exact ⟨hafter, rfl⟩
  | refused e =>
    rw [Act.bind_apply_of_refused houtcome, Act.bind_apply_of_refused (ho.trans houtcome), hact]
    exact ⟨hfree, rfl⟩
  | panicked text =>
    rw [Act.bind_apply_of_panicked houtcome, Act.bind_apply_of_panicked (ho.trans houtcome), hact]
    exact ⟨hfree, rfl⟩
  | aborted text =>
    rw [Act.bind_apply_of_aborted houtcome, Act.bind_apply_of_aborted (ho.trans houtcome), hact]
    exact ⟨hfree, rfl⟩

theorem andReturn {act inlined : Step A α} (h : ActsAs act inlined) (f : α → β) :
    ActsAs (act >>= fun a => Pure.pure (f a)) (inlined >>= fun a => Pure.pure (f a)) :=
  h.bind fun a => pure (f a)

theorem insert (id : String) (behaviour : Behaviour A) :
    ActsAs (Act.modify (Roster.insert id behaviour))
      (Act.modify (Roster.insert id behaviour.inlined)) := by
  intro roster hfree
  refine ⟨hfree, ?_⟩
  simp [Roster.inlined, Roster.insert]

theorem withBehaviour (id : String) {act inlined : Behaviour A → Step A α}
    (h : ∀ behaviour, ActsAs (act behaviour) (inlined behaviour.inlined)) :
    ActsAs (withBehaviour id act) (Behaviour.withBehaviour id inlined) := by
  intro roster hfree
  have hget : roster.inlined.behaviours.get? id =
      (roster.behaviours.get? id).map Behaviour.inlined := Named.get?_map _ _ _
  cases hid : roster.behaviours.get? id with
  | none =>
    rw [hid] at hget
    rw [withBehaviour_of_none hid, withBehaviour_of_none hget]
    exact ⟨hfree, rfl⟩
  | some behaviour =>
    rw [hid] at hget
    obtain ⟨hafter, hact⟩ := h behaviour roster hfree
    rw [withBehaviour_of_some hid, withBehaviour_of_some hget, hact]
    exact ⟨hafter, rfl⟩

/-- Whichever context is obtained, it is inlined to the same. -/
theorem obtainContext (lock? : Option Nat) (kind : ContextKind)
    {next inlined : ExecutionContext → Step A α}
    (h : ∀ context, ActsAs (next context) (inlined context.inlined)) :
    ActsAs (obtainContext lock? kind >>= next) (makeContext kind.inlined >>= inlined) := by
  intro roster hfree
  cases kind with
  | free routine => cases lock? <;> exact h (.free routine) roster hfree
  | locked =>
    cases lock? with
    | some lock => exact h (.locked lock) roster hfree
    | none =>
      exact h (.locked roster.locks.length) (roster.setLocks (roster.locks ++ [Mutex.new]))
        (Locks.Free.append_new hfree)

theorem ifAll (ids : List String) {act inlined other otherInlined : Step A α}
    (h : ActsAs act inlined) (hother : ActsAs other otherInlined) :
    ActsAs (do if (← Act.get).hasAll ids then act else other)
      (do if (← Act.get).hasAll ids then inlined else otherInlined) := by
  intro roster hfree
  have hall : roster.inlined.hasAll ids = roster.hasAll ids := by
    simp [Roster.hasAll, Roster.inlined]
  rw [Act.get_bind, Act.get_bind, hall]
  split
  · exact h roster hfree
  · exact hother roster hfree

theorem finalizeAs (origin : Origin) (members : Declaration) (context : ExecutionContext) :
    ActsAs (finalizeAs origin members context)
      (Behaviour.finalizeAs origin members context.inlined : Step A Nat) := by
  intro roster hfree
  rw [finalizeAs_apply, finalizeAs_apply]
  refine ⟨hfree, ?_⟩
  unfold Declaration.finalize
  cases members.firstBare with
  | some name => rfl
  | none => simp [Roster.inlined, Roster.setBehaviours, Declaration.map_injectAll]

end ActsAs

theorem actsAs_invoke (behaviour : Behaviour A) (args : A) :
    ActsAs (Act.within Roster.locks Roster.setLocks (behaviour.invoke args) : Step A Unit)
      (Act.within Roster.locks Roster.setLocks (behaviour.inlined.invoke args)) := by
  intro roster hfree
  refine ⟨(behaviour.safe_invoke args roster.locks hfree).1, ?_⟩
  cases hcontext : behaviour.context with
  | none => simp [invoke, inlined, hcontext, Roster.inlined, Roster.setLocks]
  | some context =>
    -- A free lock is acquired, poisoned or not, and only the locks tell afterwards.
    have hrun := ExecutionContext.run_of_free (ε := Violation) hfree behaviour.runBody args context
    simp only [invoke, inlined, hcontext, Option.map_some, Act.within_apply, hrun]
    rfl

theorem actsAs_serve (use : Use A) : ActsAs (serve use) (attempt use.inlined) := by
  obtain ⟨request, lock?⟩ := use
  rw [← attemptWith_makeContext]
  cases request with
  | new id name body => exact (ActsAs.insert id (new name body)).andReturn _
  | inject id kind =>
    exact .withBehaviour id fun behaviour => .obtainContext lock? kind fun context =>
      (ActsAs.insert id (behaviour.inject context)).andReturn _
  | invoke form id args =>
    exact .withBehaviour id fun behaviour => (actsAs_invoke behaviour args).andReturn _
  | name id => exact .withBehaviour id fun behaviour => .pure _
  | showDebug id pretty =>
    refine .withBehaviour id fun behaviour => ?_
    rw [shape_inlined]
    exact .pure _
  | finalize form origin kind members =>
    refine .ifAll members.behaviourIds (ActsAs.andReturn ?_ _) (.pure none)
    exact .obtainContext lock? kind fun context => .finalizeAs origin members context
  | runThreads kind threads jobs => exact .pure _

theorem actsAs_step (mode : FailureMode) (use : Use A) :
    ActsAs (sharing.step mode use) (machine.step mode use.inlined) := by
  intro roster hfree
  obtain ⟨hafter, hserve⟩ := actsAs_serve use roster hfree
  have hform : use.inlined.form = use.request.form := by
    obtain ⟨request, lock?⟩ := use
    cases request <;> rfl
  refine ⟨hafter, ?_⟩
  change ((attempt use.inlined roster.inlined).1,
    (attempt use.inlined roster.inlined).2.inForm mode use.inlined.form) = _
  rw [hserve, hform]
  rfl

/-- A session with locked contexts has the runs of that with inline ones. -/
theorem runs_sharing (mode : FailureMode) (roster : Roster A) (hfree : roster.Unlocked)
    (uses : List (Use A)) :
    (sharing.session mode roster uses).map Report.run =
      (machine.session mode roster.inlined (uses.map Use.inlined)).map Report.run := by
  unfold Machine.session
  induction uses generalizing roster with
  | nil => rfl
  | cons use rest ih =>
    obtain ⟨hafter, hstep⟩ := actsAs_step mode use roster hfree
    rw [List.map_cons, Session.reports_cons, Session.reports_cons, hstep]
    cases (sharing.step mode use roster).2.outcome.isAborted with
    | true => simp
    | false => simpa using ih _ hafter

/-- Where no request names a lock, both machines have the same sessions. -/
theorem session_unshared (mode : FailureMode) (roster : Roster A) (requests : List (Request A)) :
    sharing.session mode roster (requests.map fun request => ⟨request, none⟩) =
      machine.session mode roster requests := by
  have hstep : ∀ request : Request A,
      sharing.step mode ⟨request, none⟩ = machine.step mode request := by
    intro request
    have hattempt : sharing.attempt ⟨request, none⟩ = machine.attempt request := serve_none request
    unfold Machine.step
    rw [hattempt]
    rfl
  unfold Machine.session
  induction requests generalizing roster with
  | nil => rfl
  | cons request rest ih =>
    rw [List.map_cons, Session.reports_cons, Session.reports_cons, hstep, ih]

/-- In particular, locked contexts that are not shared make no difference. -/
theorem runs_inlined (mode : FailureMode) (requests : List (Request A)) :
    (machine.session mode Roster.empty requests).map Report.run =
      (machine.session mode Roster.empty (requests.map Request.inlined)).map Report.run := by
  have hruns := runs_sharing mode Roster.empty unlocked_empty
    (requests.map fun request => ⟨request, none⟩)
  rw [session_unshared, List.map_map] at hruns
  exact hruns

/-- Locked contexts and inline ones are interchangeable. Two sessions whose requests are the same
once all contexts are inline answer and log the same, however their locked contexts are shared,
whichever bodies panic, and whichever of the locks are poisoned already. Both do what behaviours in
inline contexts do. -/
theorem locked_and_inline_contexts_interchange (mode : FailureMode) {first second : List (Use A)}
    (hsame : first.map Use.inlined = second.map Use.inlined) {locks others : Locks}
    (hlocks : locks.Free) (hothers : others.Free) :
    let runs := fun locks uses => (sharing.session mode ⟨Named.empty, locks⟩ uses).map Report.run
    runs locks first = runs others second ∧
      runs locks first =
        (machine.session mode Roster.empty (first.map Use.inlined)).map Report.run := by
  have hfirst := runs_sharing mode ⟨Named.empty, locks⟩ hlocks first
  have hsecond := runs_sharing mode ⟨Named.empty, others⟩ hothers second
  refine ⟨?_, hfirst⟩
  rw [hsame] at hfirst
  exact hfirst.trans hsecond.symm

def speak (word : String) : Client Unit := if word = "" then .error "no word" else .ok ()

/-- Two behaviours, each in a context of its own or both in the one whose lock is named. The first
panics, and both are invoked afterwards. -/
def spoken (kind declared : ContextKind) (lock? : Option Nat) : List (Use String) :=
  [⟨.new "b" "bell" speak, none⟩, ⟨.new "d" "drum" speak, none⟩, ⟨.inject "b" kind, lock?⟩,
    ⟨.finalize .failFast .owner declared [.behaviour "d"], lock?⟩, ⟨.invoke .checked "b" "", none⟩,
    ⟨.invoke .failFast "d" "x", none⟩, ⟨.invoke .checked "b" "y", none⟩,
    ⟨.showDebug "b" true, none⟩]

/-- In the shared context the first behaviour leaves a poisoned lock to the second. -/
theorem shared_poisoned_context_interchanges :
    let runs := fun locks uses =>
      (sharing.session .panic ⟨Named.empty, locks⟩ uses).map (Report.run (α := Option Reply))
    let shared := spoken .locked .locked (some 0)
    let apart := spoken (.free Routine.callOnce) .locked none
    shared.map Use.inlined = apart.map Use.inlined ∧ Locks.Free [Mutex.new] ∧ Locks.Free [] ∧
      (Session.finalState (sharing.step .panic) ⟨Named.empty, [Mutex.new]⟩ shared).locks =
        [⟨false, true⟩] ∧
      runs [Mutex.new] shared = runs [] apart := by
  intro runs shared apart
  have hsame : shared.map Use.inlined = apart.map Use.inlined := rfl
  have hfresh : Locks.Free [Mutex.new] := by
    simp [Locks.Free, Mutex.new]
  have hnone : Locks.Free [] := by
    simp [Locks.Free]
  refine ⟨hsame, hfresh, hnone, by decide +kernel, ?_⟩
  exact (locked_and_inline_contexts_interchange .panic hsame hfresh hnone).1

end Behaviour
end RuntimeContracts

import RuntimeContracts.Proofs.Behaviour.History

/-!
# A body runs at most once

A context is any program around a job: it may never call the job, call it again and again, and catch
its panics. The job takes its arguments before it runs the body on them, so the first call runs the
body, whatever becomes of it, and every later one returns at once. An invocation ends as its context
does.
-/

namespace RuntimeContracts

/-! ## What a routine does -/

inductive Deed where
  | said (entry : Entry)
  | called (ended : Client Unit)

namespace Deed

def entries : List Deed → Trace
  | [] => []
  | .said entry :: rest => entry :: entries rest
  | .called _ :: rest => entries rest

def calls : List Deed → List (Client Unit)
  | [] => []
  | .said _ :: rest => calls rest
  | .called ended :: rest => ended :: calls rest

/-- The entries of the routine, and those of the first call of the job where that is made. -/
def entriesAround (job : Trace) : List Deed → Trace
  | [] => []
  | .said entry :: rest => entry :: entriesAround job rest
  | .called _ :: rest => job ++ entries rest

theorem entriesAround_of_uncalled {deeds : List Deed} (h : calls deeds = []) (job : Trace) :
    entriesAround job deeds = entries deeds := by
  induction deeds with
  | nil => rfl
  | cons deed rest ih =>
    cases deed with
    | said entry => exact congrArg (entry :: ·) (ih h)
    | called ended => cases h

theorem entriesAround_append {before : List Deed} (h : calls before = []) (job : Trace)
    (ended : Client Unit) (after : List Deed) :
    entriesAround job (before ++ .called ended :: after) =
      entries before ++ job ++ entries after := by
  induction before with
  | nil => rfl
  | cons deed rest ih =>
    cases deed with
    | said entry => exact congrArg (entry :: ·) (ih h)
    | called other => cases h

/-- What the job leaves is there once if it is called at all. -/
theorem count_entriesAround (job : Trace) (entry : Entry) (deeds : List Deed) :
    (entriesAround job deeds).count entry =
      (entries deeds).count entry + min (calls deeds).length 1 * job.count entry := by
  induction deeds with
  | nil => simp [entriesAround, entries, calls]
  | cons deed rest ih =>
    cases deed with
    | said other =>
      simp only [entriesAround, entries, calls, List.count_cons, ih]
      omega
    | called ended =>
      have hcalled : min ((calls rest).length + 1) 1 = 1 := by omega
      simp only [entriesAround, entries, calls, List.count_append, List.length_cons, hcalled]
      omega

theorem calls_append (before after : List Deed) :
    calls (before ++ after) = calls before ++ calls after := by
  induction before with
  | nil => rfl
  | cons deed rest ih =>
    cases deed with
    | said entry => exact ih
    | called ended => exact congrArg (ended :: ·) ih

end Deed

structure Course where
  deeds : List Deed
  ending : Client Unit

def Course.behind (deed : Deed) (course : Course) : Course := ⟨deed :: course.deeds, course.ending⟩

namespace Routine

/-- The course of the routine if its calls of the job end as the answers say, in turn. -/
def course : Routine → (Nat → Client Unit) → Course
  | .finish, _ => ⟨[], .ok ()⟩
  | .panic text, _ => ⟨[], .error text⟩
  | .say entry next, answers => (next.course answers).behind (.said entry)
  | .callJob next, answers =>
    ((next (answers 0)).course fun n => answers (n + 1)).behind (.called (answers 0))

/-- The calls of the job end as the answers say. -/
theorem calls_course (routine : Routine) (answers : Nat → Client Unit) :
    Deed.calls (routine.course answers).deeds =
      (List.range (Deed.calls (routine.course answers).deeds).length).map answers := by
  induction routine generalizing answers with
  | finish | panic text => rfl
  | say entry next ih => exact ih answers
  | callJob next ih =>
    have hrest := ih (answers 0) fun n => answers (n + 1)
    change answers 0 :: Deed.calls _ = List.map answers (List.range (List.length (_ :: _)))
    rw [List.length_cons, List.range_succ_eq_map, List.map_cons, List.map_map]
    exact congrArg (answers 0 :: ·) hrest

end Routine

/-! ## Jobs -/

namespace Act

variable {σ ε : Type}

def caught (act : Act σ Empty Unit) : Act σ ε (Client Unit) := fun s =>
  ((act s).1, ⟨(act s).2.trace,
    match (act s).2.outcome with
    | .returned () => .returned (.ok ())
    | .panicked text => .returned (.error text)
    | .aborted text => .aborted text
    | .refused e => nomatch e⟩)

theorem caught_apply {act : Act σ Empty Unit} {s : σ} {ended : Client Unit}
    (h : (act s).2.outcome = (Run.call ended : Run Empty Unit).outcome) :
    (caught act s : σ × Run ε (Client Unit)) = ((act s).1, ⟨(act s).2.trace, .returned ended⟩) := by
  unfold caught
  cases ended with
  | ok u => rw [h]; rfl
  | error text => rw [h]; rfl

theorem caught_bind_apply {α : Type} {act : Act σ Empty Unit} {s : σ} {ended : Client Unit}
    (h : (act s).2.outcome = (Run.call ended : Run Empty Unit).outcome)
    (next : Client Unit → Act σ ε α) : (caught act >>= next) s =
      ((next ended (act s).1).1, (next ended (act s).1).2.after (act s).2.trace) := by
  have hcaught := caught_apply (ε := ε) h
  have ho : (caught act s : σ × Run ε (Client Unit)).2.outcome = .returned ended := by rw [hcaught]
  rw [bind_apply_of_returned ho, hcaught]

end Act

namespace Routine

variable {σ A ε : Type}

def perform (job : Act σ Empty Unit) : Routine → Act σ ε Unit
  | .finish => pure ()
  | .panic text => Act.lift (Run.panic text)
  | .say entry next => do
    Act.lift (Run.emit entry)
    next.perform job
  | .callJob next => do
    let ended ← Act.caught job
    (next ended).perform job

/-- The job that runs the work on the arguments. It has taken them by the time the work begins, and
does nothing once they are gone. -/
def oneShot (work : A → Run Empty Unit) : Act (Option A) Empty Unit := do
  let args? ← Act.get
  Act.set none
  match args? with
  | none => pure ()
  | some args => Act.lift (work args)

theorem oneShot_some (work : A → Run Empty Unit) (args : A) :
    oneShot work (some args) = (none, work args) := rfl

/-- How the calls of a job end whose first call ends so. -/
def once (first : Client Unit) : Nat → Client Unit
  | 0 => first
  | _ + 1 => .ok ()

/-- A job without arguments adds nothing to what the routine does. -/
theorem perform_spent (work : A → Run Empty Unit) (routine : Routine) :
    let course := routine.course fun _ => .ok ()
    (routine.perform (oneShot work) none : _ × Run ε Unit) =
      (none, ⟨Deed.entries course.deeds, (Run.call course.ending : Run ε Unit).outcome⟩) := by
  induction routine with
  | finish | panic text => rfl
  | say entry next ih =>
    rw [perform, Act.lift_emit_bind, ih]
    rfl
  | callJob next ih =>
    have hcall : (oneShot work none).2.outcome = (Run.call (.ok ()) : Run Empty Unit).outcome := rfl
    rw [perform, Act.caught_bind_apply hcall]
    exact ih (.ok ())

theorem perform_fresh {work : A → Run Empty Unit} {args : A} {first : Client Unit}
    (h : (work args).outcome = (Run.call first : Run Empty Unit).outcome) (routine : Routine) :
    let course := routine.course (once first)
    (routine.perform (oneShot work) (some args) : _ × Run ε Unit).2 =
      ⟨Deed.entriesAround (work args).trace course.deeds,
        (Run.call course.ending : Run ε Unit).outcome⟩ := by
  induction routine with
  | finish | panic text => rfl
  | say entry next ih =>
    rw [perform, Act.lift_emit_bind, ih]
    rfl
  | callJob next ih =>
    -- This call takes the arguments, so that the rest of the routine runs around a spent job.
    have hcall : (oneShot work (some args)).2.outcome =
        (Run.call first : Run Empty Unit).outcome := h
    rw [perform, Act.caught_bind_apply hcall, oneShot_some, perform_spent]
    rfl

/-- To run the routine around work on the arguments is to perform it around the job. -/
theorem run_eq_perform (work : A → Run Empty Unit) (routine : Routine) (args : Option A) :
    (routine.run work args : Run ε Unit) = (routine.perform (oneShot work) args).2 := by
  induction routine generalizing args with
  | finish | panic text => rfl
  | say entry next ih =>
    rw [run, perform, Act.lift_emit_bind, ih]
  | callJob next ih =>
    cases args with
    | none =>
      have hcall : (oneShot work none).2.outcome = (Run.call (.ok ()) : Run Empty Unit).outcome :=
        rfl
      rw [run, perform, Act.caught_bind_apply hcall]
      exact ih (.ok ()) none
    | some args =>
      rw [run, perform]
      cases ho : (work args).outcome with
      | returned u =>
        have hcall : (oneShot work (some args)).2.outcome =
            (Run.call (.ok u) : Run Empty Unit).outcome := ho
        rw [Act.caught_bind_apply hcall, oneShot_some, ih (.ok u) none]
      | panicked text =>
        have hcall : (oneShot work (some args)).2.outcome =
            (Run.call (.error text) : Run Empty Unit).outcome := ho
        rw [Act.caught_bind_apply hcall, oneShot_some, ← ih (.error text) none]
      | aborted text =>
        have hcaught : (Act.caught (oneShot work) (some args) : _ × Run ε (Client Unit)).2 =
            ⟨(work args).trace, .aborted text⟩ := by
          rw [Act.caught, oneShot_some, ho]
        have haborted := congrArg Run.outcome hcaught
        rw [Act.bind_apply_of_aborted haborted, hcaught]
      | refused e => cases e

/-- Of the calls of a one-shot job, the first ends as the work does and the others return. -/
theorem calls_course_once {routine : Routine} {first ended : Client Unit} {before after : List Deed}
    (hdeeds : (routine.course (once first)).deeds = before ++ .called ended :: after)
    (hbefore : Deed.calls before = []) :
    ended = first ∧ ∀ later ∈ Deed.calls after, later = .ok () := by
  have hcalls := routine.calls_course (once first)
  rw [hdeeds, Deed.calls_append, hbefore, List.nil_append, Deed.calls, List.length_cons,
    List.range_succ_eq_map, List.map_cons, List.map_map] at hcalls
  obtain ⟨hfirst, hlater⟩ := List.cons.inj hcalls
  refine ⟨hfirst, fun later hmem => ?_⟩
  rw [hlater] at hmem
  obtain ⟨n, -, rfl⟩ := List.mem_map.1 hmem
  rfl

end Routine

namespace ExecutionContext

def Enterable (locks : Locks) : ExecutionContext → Prop
  | .free _ => True
  | .locked lock => (locks.lockAt lock).held = false

theorem run_snd {A ε : Type} {locks : Locks} {context : ExecutionContext}
    (h : context.Enterable locks) (work : A → Run Empty Unit) (args : A) :
    (context.run work args locks : Locks × Run ε Unit).2 =
      context.routine.run work (some args) := by
  cases context with
  | free routine => rfl
  | locked lock =>
    simp only [run, Mutex.acquire_of_not_held h]
    rfl

end ExecutionContext

namespace Behaviour

variable {A : Type} [Describe A]

/-- An invocation that goes as the course of its context: the first call of the job is the body on
the arguments, nothing comes of the others, and the end is that of the context. -/
structure RunsAtMostOnce (behaviour : Behaviour A) (args : A) (course : Course)
    (run : Run Violation Unit) : Prop where
  trace_of_uncalled : Deed.calls course.deeds = [] → run.trace = Deed.entries course.deeds
  trace_of_called : ∀ before ended after, course.deeds = before ++ .called ended :: after →
    Deed.calls before = [] → ended = behaviour.body args ∧
      (∀ later ∈ Deed.calls after, later = .ok ()) ∧ run.trace =
        Deed.entries before ++ .bodyRun behaviour.name (describe args) :: Deed.entries after
  count_body : run.trace.count (.bodyRun behaviour.name (describe args)) =
    (Deed.entries course.deeds).count (.bodyRun behaviour.name (describe args)) +
      min (Deed.calls course.deeds).length 1
  outcome_eq : run.outcome =
    match course.ending with
    | .ok () => .returned ()
    | .error text => .panicked text

/-- The body of a behaviour runs as often as its context calls the job, but at most once: in the
first call and on the arguments of the invocation. Later calls return and leave nothing, also if the
body panicked, and the invocation returns if the context does and panics if the context does. -/
theorem body_runs_at_most_once {behaviour : Behaviour A} {context : ExecutionContext}
    (hcontext : behaviour.context = some context) {locks : Locks}
    (hlock : context.Enterable locks) (args : A) :
    let run := (behaviour.invoke args locks).2
    run = (context.routine.perform (Routine.oneShot behaviour.runBody) (some args)).2 ∧
      behaviour.RunsAtMostOnce args (context.routine.course (Routine.once (behaviour.body args)))
        run := by
  intro run
  have hrun :
      run = (context.routine.perform (Routine.oneShot behaviour.runBody) (some args)).2 := by
    have hinvoke : behaviour.invoke args locks = context.run behaviour.runBody args locks := by
      rw [invoke, hcontext]
    rw [← Routine.run_eq_perform, ← ExecutionContext.run_snd hlock, ← hinvoke]
  have hbody : (behaviour.runBody args).trace = [.bodyRun behaviour.name (describe args)] := by
    rw [runBody, Run.emit_bind, Run.trace_after, Run.trace_call, List.append_nil]
  have hends : (behaviour.runBody args).outcome =
      (Run.call (behaviour.body args) : Run Empty Unit).outcome := rfl
  have hcourse := Routine.perform_fresh (ε := Violation) hends context.routine
  rw [← hrun, hbody] at hcourse
  refine ⟨hrun, ?_, ?_, ?_, ?_⟩
  · intro huncalled
    rw [hcourse, Deed.entriesAround_of_uncalled huncalled]
  · intro before ended after hdeeds hbefore
    obtain ⟨hended, hlater⟩ := Routine.calls_course_once hdeeds hbefore
    refine ⟨hended, hlater, ?_⟩
    rw [hcourse, hdeeds, Deed.entriesAround_append hbefore, List.append_assoc]
    rfl
  · rw [hcourse, Deed.count_entriesAround, List.count_singleton_self, Nat.mul_one]
  · rw [hcourse]
    cases (context.routine.course (Routine.once (behaviour.body args))).ending <;> rfl

def insisting : Routine :=
  .say (.contextEntered "insisting") <| .callJob fun _ => .callJob fun _ => .callJob fun _ =>
    .say (.contextLeft "insisting") .finish

/-- The first call panics with the body, the context goes on, and the other calls return. -/
theorem insisting_context_runs_body_once :
    let bell := (new "bell" fun _ : String => .error "cracked").inject (.free insisting)
    let course := insisting.course (Routine.once (.error "cracked"))
    bell.context = some (.free insisting) ∧ ExecutionContext.Enterable [] (.free insisting) ∧
      bell.RunsAtMostOnce "x" course (bell.invoke "x" []).2 ∧
      Deed.calls course.deeds = [.error "cracked", .ok (), .ok ()] ∧
      (bell.invoke "x" []).2 = ⟨[.contextEntered "insisting", .bodyRun "bell" (describe "x"),
        .contextLeft "insisting"], .returned ()⟩ := by
  intro bell course
  have hcontext : bell.context = some (.free insisting) := rfl
  have hlock : ExecutionContext.Enterable [] (.free insisting) := trivial
  obtain ⟨-, hruns⟩ := body_runs_at_most_once hcontext hlock "x"
  exact ⟨hcontext, hlock, hruns, rfl, by decide +kernel⟩

end Behaviour
end RuntimeContracts

import Mathlib.Data.List.Forall2
import RuntimeContracts.Proofs.Session.Erasure
import RuntimeContracts.Run.Cleanup

/-!
# Runs told in other words

Two contracts may do the same and tell of it differently: they report other events, or refuse with
other errors. A retelling changes nothing else of a run, and the retelling of a sequence is the
sequence of what is retold.
-/

namespace RuntimeContracts

structure Retelling (ε : Type) where
  event : Event → Event
  error : ε → ε

def Entry.retold (tell : Event → Event) : Entry → Entry
  | .reported event => .reported (tell event)
  | entry => entry

def Trace.retold (tell : Event → Event) (trace : Trace) : Trace := trace.map (Entry.retold tell)

@[simp] theorem Trace.retold_append (tell : Event → Event) (first second : Trace) :
    Trace.retold tell (first ++ second) = first.retold tell ++ second.retold tell :=
  List.map_append

/-- A retelling leaves all entries but events as they are. -/
theorem Trace.retold_of_quiet {trace : Trace} (h : trace.events = []) (tell : Event → Event) :
    trace.retold tell = trace := by
  refine (List.map_congr_left fun entry hmem => ?_).trans (List.map_id trace)
  have hquiet := List.filterMap_eq_nil_iff.1 h entry hmem
  cases entry with
  | reported event => cases hquiet
  | _ => rfl

namespace Run

variable {ε α β : Type} {tell : Retelling ε}

def retold (tell : Retelling ε) (run : Run ε α) : Run ε α :=
  ⟨run.trace.retold tell.event, run.outcome.mapError tell.error⟩

theorem retold_after (trace : Trace) (run : Run ε α) :
    (run.after trace).retold tell = (run.retold tell).after (trace.retold tell.event) := by
  ext1
  · exact Trace.retold_append tell.event trace run.trace
  · rfl

theorem retold_bind (run : Run ε α) (next : α → Run ε β) :
    (run >>= next).retold tell = run.retold tell >>= fun a => (next a).retold tell := by
  cases ho : run.outcome with
  | returned a =>
    have hretold : (run.retold tell).outcome = .returned a :=
      congrArg (Outcome.mapError tell.error) ho
    rw [bind_of_returned ho, bind_of_returned hretold, retold_after]
    rfl
  | refused e =>
    have hretold : (run.retold tell).outcome = .refused (tell.error e) :=
      congrArg (Outcome.mapError tell.error) ho
    rw [bind_of_refused ho, bind_of_refused hretold]
    rfl
  | panicked text =>
    have hretold : (run.retold tell).outcome = .panicked text :=
      congrArg (Outcome.mapError tell.error) ho
    rw [bind_of_panicked ho, bind_of_panicked hretold]
    rfl
  | aborted text =>
    have hretold : (run.retold tell).outcome = .aborted text :=
      congrArg (Outcome.mapError tell.error) ho
    rw [bind_of_aborted ho, bind_of_aborted hretold]
    rfl

theorem retold_eq_self {run : Run ε α} (htrace : run.trace.retold tell.event = run.trace)
    (herror : ∀ e, run.outcome = .refused e → tell.error e = e) : run.retold tell = run := by
  ext1
  · exact htrace
  · change run.outcome.mapError tell.error = run.outcome
    cases ho : run.outcome with
    | refused e => rw [Outcome.mapError, herror e ho]
    | returned a | panicked text | aborted text => rfl

/-- A cleanup that reports nothing is told as it is. -/
theorem retold_cleanedUpBy (work : Run ε α) {cleanup : Run Empty Unit}
    (h : cleanup.trace.events = []) :
    (work.cleanedUpBy cleanup).retold tell = (work.retold tell).cleanedUpBy cleanup := by
  obtain ⟨trace, outcome⟩ := work
  cases outcome with
  | aborted text => rfl
  | returned a | refused e | panicked text =>
    ext1
    · change Trace.retold tell.event (trace ++ cleanup.trace) = _
      rw [Trace.retold_append, Trace.retold_of_quiet h]
      rfl
    · change Outcome.mapError tell.error (Outcome.afterCleanup _ cleanup.outcome) = _
      match hcleanup : cleanup.outcome with
      | .returned () => simp [retold, cleanedUpBy, Outcome.afterCleanup, Outcome.mapError, hcleanup]
      | .panicked text =>
        simp [retold, cleanedUpBy, Outcome.afterCleanup, Outcome.mapError, hcleanup]
      | .aborted text =>
        simp [retold, cleanedUpBy, Outcome.afterCleanup, Outcome.mapError, hcleanup]

/-- A run aborts in a form exactly if it does so when it is retold. -/
theorem isAborted_retold_inForm [Diagnosis ε] (mode : FailureMode) (run : Run ε α) (form : Form) :
    ((run.retold tell).inForm mode form).outcome.isAborted =
      (run.inForm mode form).outcome.isAborted := by
  cases form with
  | checked => exact Outcome.isAborted_mapError tell.error run.outcome
  | failFast =>
    rw [inForm, inForm]
    cases ho : run.outcome with
    | refused e =>
      have hretold : (run.retold tell).outcome = .refused (tell.error e) :=
        congrArg (Outcome.mapError tell.error) ho
      rw [enforce_of_refused mode ho, enforce_of_refused mode hretold]
      cases mode <;> rfl
    | returned a | panicked text | aborted text =>
      have hnone : ∀ e, run.outcome ≠ .refused e := by simp [ho]
      have hretold : ∀ e, (run.retold tell).outcome ≠ .refused e := by
        simp [retold, ho, Outcome.mapError]
      rw [enforce_eq_self mode hnone, enforce_eq_self mode hretold]
      exact Outcome.isAborted_mapError tell.error run.outcome

end Run

namespace Machine

open Session

variable {σ ρ ε α : Type} [Diagnosis ε] {machine : Machine σ ρ ε α} {tell : Retelling ε}
  {blames : ρ → ε → Prop} {related : σ → σ → Prop}

omit [Diagnosis ε] in
/-- The second turn asks for the form that the first asks for, and does what the first does but
tells of it in other words. What the first is refused with is to blame for it, and the states that
the two leave are related. -/
structure ToldAlike (machine : Machine σ ρ ε α) (tell : Retelling ε) (blames : ρ → ε → Prop)
    (related : σ → σ → Prop) (turn turn' : Turn σ ρ ε (Option α)) : Prop where
  form_eq : machine.form turn'.request = machine.form turn.request
  told : (machine.attempt turn'.request turn'.before).2 =
    (machine.attempt turn.request turn.before).2.retold tell
  blames : ∀ e, (machine.attempt turn.request turn.before).2.outcome = .refused e →
    blames turn.request e
  related : related turn.report.state turn'.report.state

/-- Sessions that begin with turns told alike, and go on so, are told alike. -/
theorem toldAlike_cons (mode : FailureMode) {request request' : ρ} {s s' : σ}
    (hform : machine.form request' = machine.form request)
    (htold : (machine.attempt request' s').2 = (machine.attempt request s).2.retold tell)
    (hblames : ∀ e, (machine.attempt request s).2.outcome = .refused e → blames request e)
    (hrelated : related (machine.attempt request s).1 (machine.attempt request' s').1)
    {rest rest' : List ρ}
    (hrest : List.Forall₂ (machine.ToldAlike tell blames related)
      (turns (machine.step mode) (machine.attempt request s).1 rest)
      (turns (machine.step mode) (machine.attempt request' s').1 rest')) :
    List.Forall₂ (machine.ToldAlike tell blames related)
      (turns (machine.step mode) s (request :: rest))
      (turns (machine.step mode) s' (request' :: rest')) := by
  have haborted : (machine.step mode request' s').2.outcome.isAborted =
      (machine.step mode request s).2.outcome.isAborted := by
    unfold step
    rw [Act.inForm_snd, Act.inForm_snd, hform, htold]
    exact Run.isAborted_retold_inForm mode _ _
  rw [turns_cons, turns_cons, haborted]
  refine .cons ⟨hform, htold, hblames, hrelated⟩ ?_
  split
  · exact .nil
  · exact hrest

/-- Sessions of the same requests are told alike if single attempts are, from related states. -/
theorem toldAlike_of_related {P : ρ → Prop}
    (hstep : ∀ request s s', P request → related s s' →
      (machine.attempt request s').2 = (machine.attempt request s).2.retold tell ∧
        (∀ e, (machine.attempt request s).2.outcome = .refused e → blames request e) ∧
        related (machine.attempt request s).1 (machine.attempt request s').1)
    (mode : FailureMode) {requests : List ρ} (hP : ∀ request ∈ requests, P request) {s s' : σ}
    (hs : related s s') :
    List.Forall₂ (machine.ToldAlike tell blames related) (turns (machine.step mode) s requests)
      (turns (machine.step mode) s' requests) := by
  induction requests generalizing s s' with
  | nil => exact .nil
  | cons request rest ih =>
    obtain ⟨htold, hblames, hrelated⟩ := hstep request s s' (hP request List.mem_cons_self) hs
    exact toldAlike_cons mode rfl htold hblames hrelated
      (ih (fun other hmem => hP other (List.mem_cons_of_mem request hmem)) hrelated)

end Machine
end RuntimeContracts

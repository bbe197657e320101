import RuntimeContracts.Trace.Entry

/-!
# Runs

A run is the trace of what happened together with the way it ended: it returned a value, refused
with an error, panicked with a text, or aborted the program. Sequencing stops at the first run that
does not return, and keeps the trace up to there.
-/

namespace RuntimeContracts

inductive Outcome (ε α : Type) where
  | returned (value : α)
  | refused (error : ε)
  | panicked (text : String)
  | aborted (text : String)
deriving DecidableEq, Repr

namespace Outcome

variable {ε δ α β : Type}

def map (f : α → β) : Outcome ε α → Outcome ε β
  | returned a => returned (f a)
  | refused e => refused e
  | panicked text => panicked text
  | aborted text => aborted text

def mapError (f : ε → δ) : Outcome ε α → Outcome δ α
  | returned a => returned a
  | refused e => refused (f e)
  | panicked text => panicked text
  | aborted text => aborted text

def isAborted : Outcome ε α → Bool
  | aborted _ => true
  | _ => false

def isPanicked : Outcome ε α → Bool
  | panicked _ => true
  | _ => false

def isReturned : Outcome ε α → Bool
  | returned _ => true
  | _ => false

@[simp] theorem isAborted_map (f : α → β) (outcome : Outcome ε α) :
    (outcome.map f).isAborted = outcome.isAborted := by
  cases outcome <;> rfl

@[simp] theorem isAborted_mapError (f : ε → δ) (outcome : Outcome ε α) :
    (outcome.mapError f).isAborted = outcome.isAborted := by
  cases outcome <;> rfl

@[simp] theorem isPanicked_map (f : α → β) (outcome : Outcome ε α) :
    (outcome.map f).isPanicked = outcome.isPanicked := by
  cases outcome <;> rfl

theorem map_eq_refused_iff {f : α → β} {outcome : Outcome ε α} {e : ε} :
    outcome.map f = .refused e ↔ outcome = .refused e := by
  cases outcome <;> simp [map]

end Outcome

/-- Client code answers with a value or panics with a text. -/
abbrev Client (α : Type) := Except String α

structure Run (ε α : Type) where
  trace : Trace
  outcome : Outcome ε α
deriving DecidableEq, Repr

namespace Run

variable {ε α β : Type}

def ret (a : α) : Run ε α := ⟨[], .returned a⟩

def refuse (e : ε) : Run ε α := ⟨[], .refused e⟩

def panic (text : String) : Run ε α := ⟨[], .panicked text⟩

def abort (text : String) : Run ε α := ⟨[], .aborted text⟩

def emit (entry : Entry) : Run ε Unit := ⟨[entry], .returned ()⟩

def report (event : Event) : Run ε Unit := emit (.reported event)

def call : Client α → Run ε α
  | .ok a => ret a
  | .error text => panic text

/-- Puts a trace before a run. -/
def after (trace : Trace) (run : Run ε α) : Run ε α := ⟨trace ++ run.trace, run.outcome⟩

def bind (run : Run ε α) (next : α → Run ε β) : Run ε β :=
  match run.outcome with
  | .returned a => (next a).after run.trace
  | .refused e => ⟨run.trace, .refused e⟩
  | .panicked text => ⟨run.trace, .panicked text⟩
  | .aborted text => ⟨run.trace, .aborted text⟩

instance : Monad (Run ε) where
  pure := ret
  bind := bind

@[ext] theorem ext {first second : Run ε α} (ht : first.trace = second.trace)
    (ho : first.outcome = second.outcome) : first = second := by
  cases first; cases second; simp_all

@[simp] theorem trace_pure (a : α) : (pure a : Run ε α).trace = [] := rfl
@[simp] theorem outcome_pure (a : α) : (pure a : Run ε α).outcome = .returned a := rfl
@[simp] theorem trace_ret (a : α) : (ret a : Run ε α).trace = [] := rfl
@[simp] theorem outcome_ret (a : α) : (ret a : Run ε α).outcome = .returned a := rfl
@[simp] theorem trace_refuse (e : ε) : (refuse e : Run ε α).trace = [] := rfl
@[simp] theorem outcome_refuse (e : ε) : (refuse e : Run ε α).outcome = .refused e := rfl
@[simp] theorem trace_panic (text : String) : (panic text : Run ε α).trace = [] := rfl
@[simp] theorem outcome_panic (text : String) :
    (panic text : Run ε α).outcome = .panicked text := rfl
@[simp] theorem trace_abort (text : String) : (abort text : Run ε α).trace = [] := rfl
@[simp] theorem outcome_abort (text : String) :
    (abort text : Run ε α).outcome = .aborted text := rfl
@[simp] theorem trace_emit (entry : Entry) : (emit entry : Run ε Unit).trace = [entry] := rfl
@[simp] theorem outcome_emit (entry : Entry) :
    (emit entry : Run ε Unit).outcome = .returned () := rfl
@[simp] theorem trace_after (trace : Trace) (run : Run ε α) :
    (run.after trace).trace = trace ++ run.trace := rfl
@[simp] theorem outcome_after (trace : Trace) (run : Run ε α) :
    (run.after trace).outcome = run.outcome := rfl
@[simp] theorem call_ok (a : α) : (call (.ok a) : Run ε α) = pure a := rfl
@[simp] theorem call_error (text : String) : (call (.error text) : Run ε α) = panic text := rfl

@[simp] theorem trace_call (x : Client α) : (call x : Run ε α).trace = [] := by
  cases x <;> rfl

@[simp] theorem outcome_call_eq_returned {x : Client α} {a : α} :
    (call x : Run ε α).outcome = .returned a ↔ x = .ok a := by
  cases x <;> simp

@[simp] theorem outcome_call_eq_panicked {x : Client α} {text : String} :
    (call x : Run ε α).outcome = .panicked text ↔ x = .error text := by
  cases x <;> simp

@[simp] theorem isAborted_outcome_call (x : Client α) :
    (call x : Run ε α).outcome.isAborted = false := by
  cases x <;> rfl

@[simp] theorem mk_returned_bind (trace : Trace) (a : α) (next : α → Run ε β) :
    (⟨trace, .returned a⟩ : Run ε α) >>= next = (next a).after trace := rfl

@[simp] theorem mk_refused_bind (trace : Trace) (e : ε) (next : α → Run ε β) :
    (⟨trace, .refused e⟩ : Run ε α) >>= next = ⟨trace, .refused e⟩ := rfl

@[simp] theorem mk_panicked_bind (trace : Trace) (text : String) (next : α → Run ε β) :
    (⟨trace, .panicked text⟩ : Run ε α) >>= next = ⟨trace, .panicked text⟩ := rfl

theorem bind_of_returned {run : Run ε α} {a : α} (h : run.outcome = .returned a)
    (next : α → Run ε β) : run >>= next = (next a).after run.trace := by
  change run.bind next = _
  simp [bind, h]

theorem bind_of_refused {run : Run ε α} {e : ε} (h : run.outcome = .refused e)
    (next : α → Run ε β) : run >>= next = ⟨run.trace, .refused e⟩ := by
  change run.bind next = _
  simp [bind, h]

theorem bind_of_panicked {run : Run ε α} {text : String} (h : run.outcome = .panicked text)
    (next : α → Run ε β) : run >>= next = ⟨run.trace, .panicked text⟩ := by
  change run.bind next = _
  simp [bind, h]

theorem bind_of_aborted {run : Run ε α} {text : String} (h : run.outcome = .aborted text)
    (next : α → Run ε β) : run >>= next = ⟨run.trace, .aborted text⟩ := by
  change run.bind next = _
  simp [bind, h]

@[simp] theorem after_nil (run : Run ε α) : run.after [] = run := rfl

@[simp] theorem after_after (first second : Trace) (run : Run ε α) :
    (run.after second).after first = run.after (first ++ second) := by
  ext1 <;> simp

@[simp] theorem after_mk (first second : Trace) (outcome : Outcome ε α) :
    (⟨second, outcome⟩ : Run ε α).after first = ⟨first ++ second, outcome⟩ := rfl

theorem after_bind (trace : Trace) (run : Run ε α) (next : α → Run ε β) :
    run.after trace >>= next = (run >>= next).after trace := by
  have ho : (run.after trace).outcome = run.outcome := rfl
  cases h : run.outcome with
  | returned a =>
    rw [bind_of_returned h, bind_of_returned (ho.trans h), after_after]
    rfl
  | refused e => rw [bind_of_refused h, bind_of_refused (ho.trans h)]; rfl
  | panicked text => rw [bind_of_panicked h, bind_of_panicked (ho.trans h)]; rfl
  | aborted text => rw [bind_of_aborted h, bind_of_aborted (ho.trans h)]; rfl

@[simp] theorem ret_eq_pure (a : α) : (ret a : Run ε α) = pure a := rfl

@[simp] theorem refuse_bind (e : ε) (next : α → Run ε β) :
    refuse e >>= next = refuse e := rfl

@[simp] theorem panic_bind (text : String) (next : α → Run ε β) :
    panic text >>= next = panic text := rfl

@[simp] theorem emit_bind (entry : Entry) (next : Unit → Run ε β) :
    emit entry >>= next = (next ()).after [entry] := rfl

instance : LawfulMonad (Run ε) := LawfulMonad.mk' (Run ε)
  (fun run => by
    change run.bind _ = run
    cases run with
    | mk trace outcome => cases outcome <;> simp [bind, after, ret])
  (fun _ _ => rfl)
  (fun run f g => by
    cases h : run.outcome with
    | returned a => rw [bind_of_returned h, bind_of_returned h, after_bind]
    | refused e => rw [bind_of_refused h, bind_of_refused h]; rfl
    | panicked text => rw [bind_of_panicked h, bind_of_panicked h]; rfl
    | aborted text => rw [bind_of_aborted h, bind_of_aborted h]; rfl)

end Run
end RuntimeContracts

import RuntimeContracts.Run.Basic

/-!
# Acts on a state

An act takes a state to the state after it and a run. The state after it is there however the run
ended, so what an interrupted act had already changed stays changed.
-/

namespace RuntimeContracts

def Act (σ ε α : Type) : Type := σ → σ × Run ε α

namespace Act

variable {σ ε α β : Type}

def lift (run : Run ε α) : Act σ ε α := fun s => (s, run)

def get : Act σ ε σ := fun s => (s, pure s)

def set (s : σ) : Act σ ε Unit := fun _ => (s, pure ())

def modify (change : σ → σ) : Act σ ε Unit := fun s => (change s, pure ())

def bind (act : Act σ ε α) (next : α → Act σ ε β) : Act σ ε β := fun s =>
  let (s', run) := act s
  match run.outcome with
  | .returned a =>
    let (s'', rest) := next a s'
    (s'', rest.after run.trace)
  | .refused e => (s', ⟨run.trace, .refused e⟩)
  | .panicked text => (s', ⟨run.trace, .panicked text⟩)
  | .aborted text => (s', ⟨run.trace, .aborted text⟩)

instance : Monad (Act σ ε) where
  pure a := lift (pure a)
  bind := bind

@[simp] theorem pure_apply (a : α) (s : σ) : (pure a : Act σ ε α) s = (s, pure a) := rfl
@[simp] theorem lift_apply (run : Run ε α) (s : σ) : lift run s = (s, run) := rfl
@[simp] theorem get_apply (s : σ) : (get : Act σ ε σ) s = (s, pure s) := rfl
@[simp] theorem set_apply (s s' : σ) : (set s : Act σ ε Unit) s' = (s, pure ()) := rfl
@[simp] theorem modify_apply (change : σ → σ) (s : σ) :
    (modify change : Act σ ε Unit) s = (change s, pure ()) := rfl

theorem bind_apply_of_returned {act : Act σ ε α} {s : σ} {a : α}
    (h : (act s).2.outcome = .returned a) (next : α → Act σ ε β) :
    (act >>= next) s = ((next a (act s).1).1, (next a (act s).1).2.after (act s).2.trace) := by
  change bind act next s = _
  simp [bind, h]

theorem bind_apply_of_refused {act : Act σ ε α} {s : σ} {e : ε}
    (h : (act s).2.outcome = .refused e) (next : α → Act σ ε β) :
    (act >>= next) s = ((act s).1, ⟨(act s).2.trace, .refused e⟩) := by
  change bind act next s = _
  simp [bind, h]

theorem bind_apply_of_panicked {act : Act σ ε α} {s : σ} {text : String}
    (h : (act s).2.outcome = .panicked text) (next : α → Act σ ε β) :
    (act >>= next) s = ((act s).1, ⟨(act s).2.trace, .panicked text⟩) := by
  change bind act next s = _
  simp [bind, h]

theorem bind_apply_of_aborted {act : Act σ ε α} {s : σ} {text : String}
    (h : (act s).2.outcome = .aborted text) (next : α → Act σ ε β) :
    (act >>= next) s = ((act s).1, ⟨(act s).2.trace, .aborted text⟩) := by
  change bind act next s = _
  simp [bind, h]

theorem lift_bind_of_returned {run : Run ε α} {a : α} (h : run.outcome = .returned a)
    (next : α → Act σ ε β) (s : σ) :
    (lift run >>= next) s = ((next a s).1, (next a s).2.after run.trace) :=
  bind_apply_of_returned (s := s) (show (lift run s).2.outcome = .returned a from h) next

theorem lift_bind_of_refused {run : Run ε α} {e : ε} (h : run.outcome = .refused e)
    (next : α → Act σ ε β) (s : σ) : (lift run >>= next) s = (s, ⟨run.trace, .refused e⟩) :=
  bind_apply_of_refused (s := s) (show (lift run s).2.outcome = .refused e from h) next

theorem lift_bind_of_panicked {run : Run ε α} {text : String} (h : run.outcome = .panicked text)
    (next : α → Act σ ε β) (s : σ) : (lift run >>= next) s = (s, ⟨run.trace, .panicked text⟩) :=
  bind_apply_of_panicked (s := s) (show (lift run s).2.outcome = .panicked text from h) next

@[simp] theorem get_bind (next : σ → Act σ ε β) (s : σ) : (get >>= next) s = next s s := rfl

@[simp] theorem set_bind (s s' : σ) (next : Unit → Act σ ε β) :
    (set s >>= next) s' = next () s := rfl

@[simp] theorem modify_bind (change : σ → σ) (next : Unit → Act σ ε β) (s : σ) :
    (modify change >>= next) s = next () (change s) := rfl

@[simp] theorem lift_emit_bind (entry : Entry) (next : Unit → Act σ ε β) (s : σ) :
    (lift (Run.emit entry) >>= next) s = ((next () s).1, (next () s).2.after [entry]) := rfl

theorem bind_pure_apply (act : Act σ ε α) (f : α → β) (s : σ) :
    (act >>= fun a => pure (f a)) s =
      ((act s).1, ⟨(act s).2.trace, (act s).2.outcome.map f⟩) := by
  cases ho : (act s).2.outcome with
  | returned a =>
    rw [bind_apply_of_returned ho]
    simp [Outcome.map, Run.after]
  | refused e =>
    rw [bind_apply_of_refused ho]
    rfl
  | panicked text =>
    rw [bind_apply_of_panicked ho]
    rfl
  | aborted text =>
    rw [bind_apply_of_aborted ho]
    rfl

instance : LawfulMonad (Act σ ε) := LawfulMonad.mk' (Act σ ε)
  (fun act => by
    funext s
    change bind act _ s = act s
    cases h : act s with
    | mk s' run =>
      cases run with
      | mk trace outcome => cases outcome <;> simp [bind, h, lift, Run.after])
  (fun _ _ => rfl)
  (fun act f g => by
    funext s
    cases h : (act s).2.outcome with
    | returned a =>
      have hf : (act >>= f) s = ((f a (act s).1).1, (f a (act s).1).2.after (act s).2.trace) :=
        bind_apply_of_returned h f
      rw [bind_apply_of_returned h]
      cases hfa : (f a (act s).1).2.outcome with
      | returned b =>
        have ho : ((act >>= f) s).2.outcome = .returned b := by rw [hf]; exact hfa
        rw [bind_apply_of_returned ho, bind_apply_of_returned hfa, hf]
        simp
      | refused e =>
        have ho : ((act >>= f) s).2.outcome = .refused e := by rw [hf]; exact hfa
        rw [bind_apply_of_refused ho, bind_apply_of_refused hfa, hf]
        simp [Run.after]
      | panicked text =>
        have ho : ((act >>= f) s).2.outcome = .panicked text := by rw [hf]; exact hfa
        rw [bind_apply_of_panicked ho, bind_apply_of_panicked hfa, hf]
        simp [Run.after]
      | aborted text =>
        have ho : ((act >>= f) s).2.outcome = .aborted text := by rw [hf]; exact hfa
        rw [bind_apply_of_aborted ho, bind_apply_of_aborted hfa, hf]
        simp [Run.after]
    | refused e =>
      have ho : ((act >>= f) s).2.outcome = .refused e := by rw [bind_apply_of_refused h]
      rw [bind_apply_of_refused ho, bind_apply_of_refused h, bind_apply_of_refused h]
    | panicked text =>
      have ho : ((act >>= f) s).2.outcome = .panicked text := by rw [bind_apply_of_panicked h]
      rw [bind_apply_of_panicked ho, bind_apply_of_panicked h, bind_apply_of_panicked h]
    | aborted text =>
      have ho : ((act >>= f) s).2.outcome = .aborted text := by rw [bind_apply_of_aborted h]
      rw [bind_apply_of_aborted ho, bind_apply_of_aborted h, bind_apply_of_aborted h])

/-- Acts on a part of the state; `put` writes the changed part back. -/
def within {τ : Type} (part : σ → τ) (put : τ → σ → σ) (act : Act τ ε α) : Act σ ε α := fun s =>
  let (t, run) := act (part s)
  (put t s, run)

@[simp] theorem within_apply {τ : Type} (part : σ → τ) (put : τ → σ → σ) (act : Act τ ε α) (s : σ) :
    within part put act s = (put (act (part s)).1 s, (act (part s)).2) := rfl

end Act
end RuntimeContracts

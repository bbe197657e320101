import RuntimeContracts.Constrained.Session
import RuntimeContracts.Linear.Session
import RuntimeContracts.Modal.Session
import RuntimeContracts.Proofs.Automaton.Keeping
import RuntimeContracts.Proofs.Modal.Access
import RuntimeContracts.Proofs.Session.Answered
import RuntimeContracts.Proofs.Session.Erasure

/-!
# Refused writes are invisible

A write that is refused changes nothing of a value, also not what it keeps to itself: its queue, its
count, its conditions or its state. On a value other than a modal one, neither does a write that a
predicate interrupts. A session without such writes is the same session.
-/

namespace RuntimeContracts

def Outcome.isRefused {ε α : Type} : Outcome ε α → Bool
  | .refused _ => true
  | _ => false

namespace Session

variable {σ ρ ε α : Type}

/-- The answer is a violation or a panic. -/
def Turn.failed (turn : Turn σ ρ ε α) : Bool :=
  turn.report.run.outcome.isRefused || turn.report.run.outcome.isPanicked

theorem Turn.not_returned_of_failed {turn : Turn σ ρ ε α} (h : turn.failed = true) :
    (∀ a, turn.report.run.outcome ≠ .returned a) ∧ turn.report.run.outcome.isAborted = false := by
  unfold failed at h
  generalize turn.report.run.outcome = outcome at h ⊢
  cases outcome with
  | refused e | panicked text => exact ⟨nofun, rfl⟩
  | returned a | aborted text => cases h

end Session

namespace Machine

variable {σ ρ ε α : Type} [Diagnosis ε]

open Session

def refused (machine : Machine σ ρ ε α) (turn : Turn σ ρ ε (Option α)) : Bool :=
  (machine.attempt turn.request turn.before).2.outcome.isRefused &&
    !turn.report.run.outcome.isAborted

/-- Failed writes are forgotten if an attempt at one that does not return keeps the state. -/
theorem forgets_failed {machine : Machine σ ρ ε α} {isWrite : ρ → Bool}
    (h : ∀ request s, isWrite request = true →
      (∀ answer, (machine.attempt request s).2.outcome ≠ .returned answer) →
        (machine.attempt request s).1 = s) (mode : FailureMode) :
    Forgets (machine.step mode) fun turn => isWrite turn.request && turn.failed := by
  refine forgets_of_keeps fun request s herased => ?_
  obtain ⟨hwrite, hfailed⟩ := Bool.and_eq_true_iff.1 herased
  obtain ⟨hnone, hlive⟩ := Turn.not_returned_of_failed hfailed
  refine ⟨h request s hwrite fun answer => ?_, hlive⟩
  exact mt (machine.step_returned_iff mode request s answer).2 (hnone answer)

theorem forgets_refused {machine : Machine σ ρ ε α} {isWrite : ρ → Bool}
    (h : ∀ request s e, isWrite request = true →
      (machine.attempt request s).2.outcome = .refused e → (machine.attempt request s).1 = s)
    (mode : FailureMode) :
    Forgets (machine.step mode) fun turn => isWrite turn.request && machine.refused turn := by
  refine forgets_of_keeps fun request s herased => ?_
  obtain ⟨hwrite, hrefused⟩ := Bool.and_eq_true_iff.1 herased
  obtain ⟨hrefused, hlive⟩ := Bool.and_eq_true_iff.1 hrefused
  refine ⟨?_, by simpa using hlive⟩
  cases ho : (machine.attempt request s).2.outcome with
  | refused e => exact h request s e hwrite ho
  | returned a | panicked text | aborted text =>
    dsimp only at hrefused
    rw [ho] at hrefused
    cases hrefused

end Machine

def replacing {τ ε α : Type} (write : τ → Run ε τ) (reply : α) : Act (Option τ) ε (Option α) :=
  withObject fun object => do
    let written ← Act.lift (write object)
    Act.set (some written)
    return reply

theorem replacing_fst {τ ε α : Type} {write : τ → Run ε τ} {reply : α} {object? : Option τ}
    (h : ∀ answer, (replacing write reply object?).2.outcome ≠ .returned answer) :
    (replacing write reply object?).1 = object? := by
  cases object? with
  | none => rfl
  | some object =>
    have hact : replacing write reply (some object) =
        ((Act.lift (write object) >>= fun written => do
          Act.set (some written)
          return reply) >>= fun a => pure (some a)) (some object) := rfl
    rw [hact, Act.bind_pure_apply] at h ⊢
    rcases Act.lift_bind_ends (write object) (fun written => do
        Act.set (some written)
        return reply) (some object) with ⟨written, ho, hnext⟩ | ⟨_, hstate, _⟩
    · rw [hnext] at h
      exact absurd rfl (h (some reply))
    · exact hstate

namespace Constrained

def Request.isWrite {V : Type} : Request V → Bool
  | .write .. => true
  | _ => false

end Constrained

namespace Linear

def Request.isWrite {V : Type} : Request V → Bool
  | .write .. => true
  | _ => false

end Linear

namespace Modal

variable {V : Type} [Describe V]

def Request.isWrite {V : Type} : Request V → Bool
  | .write .. => true
  | _ => false

/-- A refusal comes before anything is released or activated. -/
theorem attempt_write_of_refused (form : Form) {v : V} {modal? : Option (Modal V)} {e : Violation}
    (h : (attempt (.write form v) modal?).2.outcome = .refused e) :
    (attempt (.write form v) modal?).1 = modal? := by
  cases modal? with
  | none => rfl
  | some modal =>
    rw [attempt_write_some] at h ⊢
    have hends := write_ends modal v
    generalize (write v modal).1 = final at hends ⊢
    generalize (write v modal).2.outcome = outcome at hends h
    cases hends with
    | committed hactive hpending => cases h
    | refused hbound hfails => rfl
    | interruptedCheck text => cases h
    | interruptedRelease hsplit hpanics => cases h

end Modal

namespace Automaton

variable {V : Type} [Describe V]

def Request.isWrite {V : Type} : Request V → Bool
  | .write .. => true
  | _ => false

theorem attempt_write_of_not_returned (form : Form) {name : String} {v : V} {work : Workspace V}
    (h : ∀ answer, (attempt (.write form name v) work).2.outcome ≠ .returned answer) :
    (attempt (.write form name v) work).1 = work := by
  rw [attempt] at h ⊢
  cases hfind : work.values.get? name with
  | none => rw [finding_of_none hfind]
  | some stateful =>
    rw [finding_of_some hfind] at h ⊢
    rcases Act.lift_bind_ends (stateful.write v) (fun written => do
        Act.modify (·.setStateful name written)
        return Reply.done) work with ⟨written, ho, hnext⟩ | ⟨_, hstate, _⟩
    · dsimp only at h
      rw [hnext] at h
      exact absurd rfl (h (some .done))
    · exact hstate

end Automaton

variable {V : Type} [Describe V]

/-- Take the failed writes to a constrained, a linear or a stateful value out of a session, or the
refused ones to a modal value: all other requests are answered as before, with the same trace, and
leave the same state behind. -/
theorem failed_writes_are_invisible (mode : FailureMode) :
    Session.Forgets ((Constrained.machine (V := V)).step mode)
        (fun turn => turn.request.isWrite && turn.failed) ∧
      Session.Forgets ((Linear.machine (V := V)).step mode)
        (fun turn => turn.request.isWrite && turn.failed) ∧
      Session.Forgets ((Automaton.machine (V := V)).step mode)
        (fun turn => turn.request.isWrite && turn.failed) ∧
      Session.Forgets ((Modal.machine (V := V)).step mode)
        (fun turn => turn.request.isWrite && Modal.machine.refused turn) := by
  refine ⟨?_, ?_, ?_, ?_⟩
  · refine Machine.forgets_failed ?_ mode
    intro request s hwrite hnone
    cases request with
    | write form v => exact replacing_fst hnone
    | create | read | constrain | takeValue | showDebug => cases hwrite
  · refine Machine.forgets_failed ?_ mode
    intro request s hwrite hnone
    cases request with
    | write form v => exact replacing_fst hnone
    | new | enter | read | showDebug => cases hwrite
  · refine Machine.forgets_failed ?_ mode
    intro request work hwrite hnone
    cases request with
    | write form name v => exact Automaton.attempt_write_of_not_returned form hnone
    | _ => cases hwrite
  · refine Machine.forgets_refused ?_ mode
    intro request modal? e hwrite hrefused
    cases request with
    | write form v => exact Modal.attempt_write_of_refused form hrefused
    | new | read | attach | showDebug | describeCondition => cases hwrite

/-- Of four requests the two refused writes are taken out, in either form. -/
example :
    let even := Predicate.named "even" fun word : String => .ok (word.length % 2 == 0)
    let requests : List (Linear.Request String) :=
      [.new "" .exact [even, even], .write .checked "odd", .write .failFast "odd",
        .write .failFast "even"]
    ((Session.turns (Linear.machine.step .panic) none requests).filter fun turn =>
      !(turn.request.isWrite && turn.failed)).length = 2 := by
  decide +kernel

end RuntimeContracts

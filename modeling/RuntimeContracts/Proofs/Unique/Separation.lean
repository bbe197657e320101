import RuntimeContracts.Proofs.Session.Erasure
import RuntimeContracts.Proofs.Session.Twins
import RuntimeContracts.Proofs.Session.ValuesLive

/-!
# Slots share nothing

A request depends only on the slots that it names, and changes at most one of them. So requests
that keep to a group of slots are answered as if no others had been made, whether the slots of the
group were copied from others or others from them.
-/

namespace RuntimeContracts

namespace Act

variable {σ ε α β : Type} {R : σ → σ → Prop}

/-- The act does the same in related states, and leaves related states. -/
def Respects (R : σ → σ → Prop) (act : Act σ ε α) : Prop :=
  ∀ s s', R s s' → R (act s).1 (act s').1 ∧ (act s).2 = (act s').2

theorem respects_lift (run : Run ε α) : Respects R (lift run) := fun _ _ h => ⟨h, rfl⟩

theorem respects_pure (a : α) : Respects R (pure a : Act σ ε α) := respects_lift (pure a)

theorem respects_modify {change : σ → σ} (h : ∀ s s', R s s' → R (change s) (change s')) :
    Respects R (modify change : Act σ ε Unit) := fun s s' hs => ⟨h s s' hs, rfl⟩

theorem Respects.bind {act : Act σ ε α} (h : Respects R act) {next : α → Act σ ε β}
    (hnext : ∀ a, Respects R (next a)) : Respects R (act >>= next) := by
  intro s s' hs
  obtain ⟨hstate, hrun⟩ := h s s' hs
  cases ho : (act s).2.outcome with
  | returned a =>
    obtain ⟨hlast, hrest⟩ := hnext a _ _ hstate
    rw [bind_apply_of_returned ho, bind_apply_of_returned (hrun ▸ ho), hrun, hrest]
    exact ⟨hlast, rfl⟩
  | refused e =>
    rw [bind_apply_of_refused ho, bind_apply_of_refused (hrun ▸ ho), hrun]
    exact ⟨hstate, rfl⟩
  | panicked text =>
    rw [bind_apply_of_panicked ho, bind_apply_of_panicked (hrun ▸ ho), hrun]
    exact ⟨hstate, rfl⟩
  | aborted text =>
    rw [bind_apply_of_aborted ho, bind_apply_of_aborted (hrun ▸ ho), hrun]
    exact ⟨hstate, rfl⟩

theorem Respects.andReturn {act : Act σ ε α} (h : Respects R act) {f : α → β} :
    Respects R (act >>= fun a => pure (f a)) := h.bind fun a => respects_pure (f a)

end Act

namespace Unique

open Session (turns turns_cons)

variable {V : Type}

def Request.slots : Request V → List String
  | .new slot _ | .empty slot | .read _ slot | .fill slot _ | .isEmpty slot | .showDebug slot _ =>
    [slot]
  | .copy slot target => [slot, target]
  | .equal slot other => [slot, other]

def Agree (group : List String) (slots slots' : Slots V) : Prop :=
  ∀ slot ∈ group, slots.get? slot = slots'.get? slot

theorem Agree.insert {group : List String} {slots slots' : Slots V} (h : Agree group slots slots')
    (name : String) (unique : Unique V) :
    Agree group (slots.insert name unique) (slots'.insert name unique) := by
  intro slot hmem
  rw [Named.get?_insert, Named.get?_insert, h slot hmem]

theorem respects_insert (group : List String) (name : String) (unique : Unique V) :
    Act.Respects (Agree group) (Act.modify (·.insert name unique) : Act (Slots V) Violation Unit) :=
  Act.respects_modify fun _ _ h => h.insert name unique

theorem withSlot_some {α : Type} {slot : String} {slots : Slots V} {unique : Unique V}
    (h : slots.get? slot = some unique) (act : Unique V → Act (Slots V) Violation α) :
    withSlot slot act slots = (act unique >>= fun a => pure (some a)) slots := by
  rw [withSlot, Act.get_bind, h]

theorem respects_withSlot {α : Type} {group : List String} {slot : String} (hslot : slot ∈ group)
    {act : Unique V → Act (Slots V) Violation α}
    (h : ∀ unique, Act.Respects (Agree group) (act unique)) :
    Act.Respects (Agree group) (withSlot slot act) := by
  intro slots slots' hagree
  rw [withSlot, Act.get_bind, Act.get_bind, hagree slot hslot]
  cases slots'.get? slot with
  | none => exact Act.respects_pure none slots slots' hagree
  | some unique => exact (h unique).andReturn slots slots' hagree

variable [Describe V] [DecidableEq V]

theorem attempt_equal (slot other : String) (slots : Slots V) :
    attempt (.equal slot other) slots = (slots, pure (match slots.get? slot, slots.get? other with
      | some first, some second => some (.flag (first = second))
      | _, _ => none)) := by
  simp only [attempt, Act.get_bind]
  cases slots.get? slot with
  | none => rfl
  | some first => cases slots.get? other <;> rfl

/-- What a request does within a group of slots depends on the group alone. -/
theorem respects_attempt {group : List String} {request : Request V}
    (h : request.slots ⊆ group) : Act.Respects (Agree group) (attempt request) := by
  cases request with
  | new slot value => exact (respects_insert group slot _).andReturn
  | empty slot => exact (respects_insert group slot _).andReturn
  | read form slot =>
    apply respects_withSlot (h List.mem_cons_self)
    exact fun unique => (Act.respects_lift _).bind fun _ => (respects_insert group slot _).andReturn
  | fill slot value =>
    apply respects_withSlot (h List.mem_cons_self)
    exact fun unique => (Act.respects_lift _).bind fun _ => (respects_insert group slot _).andReturn
  | isEmpty slot =>
    exact respects_withSlot (h List.mem_cons_self) fun unique => Act.respects_pure _
  | copy slot target =>
    apply respects_withSlot (h List.mem_cons_self)
    exact fun unique => (respects_insert group target unique).andReturn
  | equal slot other =>
    intro slots slots' hagree
    have hslot : slots.get? slot = slots'.get? slot :=
      hagree slot (h (by simp [Request.slots]))
    have hother : slots.get? other = slots'.get? other :=
      hagree other (h (by simp [Request.slots]))
    rw [attempt_equal, attempt_equal, hslot, hother]
    exact ⟨hagree, rfl⟩
  | showDebug slot pretty =>
    exact respects_withSlot (h List.mem_cons_self) fun unique => Act.respects_pure _

/-- A request leaves every slot but its target as it was. -/
theorem get?_attempt_of_target_ne {request : Request V} {slot : String}
    (h : slot ∉ request.target?) (slots : Slots V) :
    (attempt request slots).1.get? slot = slots.get? slot := by
  have hsafe : Act.Safe (fun later : Slots V => later.get? slot = slots.get? slot)
      (attempt request) := by
    apply safe_of_target
    intro target htarget later unique hlater
    have hne : slot ≠ target := fun heq => h (heq ▸ htarget)
    rw [Named.get?_insert, if_neg hne, hlater]
  exact (hsafe slots rfl).1

/-- In panic mode the program goes on after every request. -/
theorem live_step_panic (request : Request V) (slots : Slots V) :
    (machine.step .panic request slots).2.Live :=
  Run.Live.inForm (safe_attempt request slots trivial).2 _

theorem turns_panic_cons (slots : Slots V) (request : Request V) (rest : List (Request V)) :
    turns (machine.step .panic) slots (request :: rest) =
      ⟨request, slots,
          ⟨(machine.step .panic request slots).2, (machine.step .panic request slots).1⟩⟩ ::
        turns (machine.step .panic) (machine.step .panic request slots).1 rest := by
  have hlive : (machine.step .panic request slots).2.outcome.isAborted = false :=
    live_step_panic request slots
  simp [turns_cons, hlive]

def Request.keepsTo (group : List String) (request : Request V) : Bool :=
  request.slots.all (· ∈ group)

/-- Requests that keep to a group, in a session whose other requests change nothing in it, are
answered as if the others had not been made. -/
theorem group_answered_alone {group : List String} {requests : List (Request V)}
    (h : ∀ request ∈ requests,
      request.keepsTo group = true ∨ ∀ target ∈ request.target?, target ∉ group)
    {slots alone : Slots V} (hagree : Agree group slots alone) :
    ((turns (machine.step .panic) slots requests).filter (·.request.keepsTo group)).map
        (fun turn => (turn.request, turn.report.run)) =
      (turns (machine.step .panic) alone (requests.filter (Request.keepsTo group))).map
        fun turn => (turn.request, turn.report.run) := by
  induction requests generalizing slots alone with
  | nil => rfl
  | cons request rest ih =>
    have hrest := fun other hmem => h other (List.mem_cons_of_mem request hmem)
    rw [turns_panic_cons]
    by_cases hkeeps : request.keepsTo group = true
    · -- Both sessions take the step, in states that agree on the group.
      have hgroup : request.slots ⊆ group := fun slot hmem => by
        simpa using List.all_eq_true.1 hkeeps slot hmem
      obtain ⟨hstate, hrun⟩ := respects_attempt hgroup slots alone hagree
      have hstep : (machine.step .panic request slots).2 = (machine.step .panic request alone).2 :=
        congrArg (Run.inForm .panic · request.form) hrun
      simp only [List.filter_cons, hkeeps, if_true, turns_panic_cons, List.map_cons, hstep]
      exact congrArg _ (ih hrest hstate)
    · -- Only the whole session takes the step, which leaves the group as it was.
      have houtside := (h request List.mem_cons_self).resolve_left hkeeps
      have hstate : Agree group (machine.step .panic request slots).1 alone := by
        intro slot hmem
        have hslot : slot ∉ request.target? := fun htarget => houtside slot htarget hmem
        exact (get?_attempt_of_target_ne hslot slots).trans (hagree slot hmem)
      simp only [List.filter_cons, hkeeps, if_false, Bool.false_eq_true]
      exact ih hrest hstate

end Unique
end RuntimeContracts

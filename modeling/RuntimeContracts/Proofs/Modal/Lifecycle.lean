import RuntimeContracts.Modal.Session
import RuntimeContracts.Proofs.Modal.Access

/-!
# The lifecycle of conditions

A lifecycle keeps every condition that was ever registered, together with its phase, and moves each
on its own. The two lists of a modal value are read off it: the pending conditions in the order of
registration, and the active ones in the order of activation.
-/

namespace RuntimeContracts

/-- Where a condition stands. An active condition knows the turn that activated it. -/
inductive Phase where
  | pending
  | active (since : Nat)
  | discarded
deriving DecidableEq

def Phase.isActive : Phase → Bool
  | .active _ => true
  | _ => false

def Phase.isActiveBefore (turn : Nat) : Phase → Bool
  | .active since => since < turn
  | _ => false

structure Registration (V : Type) where
  condition : Condition V
  phase : Phase

namespace Registration

variable {V : Type}

def Bound (v : V) (r : Registration V) : Prop :=
  r.phase.isActive ∨ r.phase = .pending ∧ r.condition.trigger.Holds v

instance (v : V) (r : Registration V) : Decidable (r.Bound v) :=
  inferInstanceAs (Decidable (_ ∨ _))

def afterRead (v : V) (r : Registration V) : Registration V :=
  match r.phase with
  | .active _ => if r.condition.Retires v then { r with phase := .discarded } else r
  | _ => r

/-- A condition that the value both triggers and retires is active after the write. -/
def afterWrite (v : V) (turn : Nat) (r : Registration V) : Registration V :=
  match r.phase with
  | .pending => if r.condition.trigger.Holds v then { r with phase := .active turn } else r
  | .active _ => if r.condition.Retires v then { r with phase := .discarded } else r
  | .discarded => r

def inPhase (phase : Phase) (rs : List (Registration V)) : List (Condition V) :=
  (rs.filter fun r => r.phase = phase).map condition

theorem mem_inPhase {phase : Phase} {rs : List (Registration V)} {c : Condition V} :
    c ∈ inPhase phase rs ↔ ∃ r ∈ rs, r.phase = phase ∧ r.condition = c := by
  simp [inPhase, and_assoc]

@[simp] theorem condition_afterRead (v : V) (r : Registration V) :
    (r.afterRead v).condition = r.condition := by
  unfold afterRead
  split
  · split <;> rfl
  · rfl

@[simp] theorem condition_afterWrite (v : V) (turn : Nat) (r : Registration V) :
    (r.afterWrite v turn).condition = r.condition := by
  unfold afterWrite
  split
  · split <;> rfl
  · split <;> rfl
  · rfl

theorem afterRead_pending_iff {v : V} {r : Registration V} :
    (r.afterRead v).phase = .pending ↔ r.phase = .pending := by
  unfold afterRead
  cases hr : r.phase with
  | active since => by_cases hretires : r.condition.Retires v <;> simp [hretires, hr]
  | pending => simp [hr]
  | discarded => simp [hr]

theorem afterRead_active_iff {v : V} {since : Nat} {r : Registration V} :
    (r.afterRead v).phase = .active since ↔ r.phase = .active since ∧ ¬ r.condition.Retires v := by
  unfold afterRead
  cases hr : r.phase with
  | active earlier => by_cases hretires : r.condition.Retires v <;> simp [hretires, hr]
  | pending => simp [hr]
  | discarded => simp [hr]

theorem afterWrite_pending_iff {v : V} {turn : Nat} {r : Registration V} :
    (r.afterWrite v turn).phase = .pending ↔
      r.phase = .pending ∧ ¬ r.condition.trigger.Holds v := by
  unfold afterWrite
  cases hr : r.phase with
  | active since => by_cases hretires : r.condition.Retires v <;> simp [hretires, hr]
  | pending => by_cases ht : r.condition.trigger.Holds v <;> simp [ht, hr]
  | discarded => simp [hr]

theorem afterWrite_active_iff {v : V} {turn since : Nat} {r : Registration V} :
    (r.afterWrite v turn).phase = .active since ↔
      (r.phase = .active since ∧ ¬ r.condition.Retires v) ∨
        (since = turn ∧ r.phase = .pending ∧ r.condition.trigger.Holds v) := by
  unfold afterWrite
  cases hr : r.phase with
  | active earlier => by_cases hretires : r.condition.Retires v <;> simp [hretires, hr]
  | pending => by_cases ht : r.condition.trigger.Holds v <;> simp [ht, hr, eq_comm]
  | discarded => simp [hr]

/-- An update that only moves some conditions from one phase to another takes these, and no others,
from the list of the one to the list of the other. -/
theorem inPhase_map {update : Registration V → Registration V} {old new : Phase}
    {moves : Condition V → Prop} [DecidablePred moves] {rs : List (Registration V)}
    (hcondition : ∀ r, (update r).condition = r.condition)
    (hphase : ∀ r ∈ rs, (update r).phase = new ↔ r.phase = old ∧ moves r.condition) :
    inPhase new (rs.map update) = (inPhase old rs).filter moves := by
  induction rs with
  | nil => rfl
  | cons r rest ih =>
    have hrest := ih (fun other hmem => hphase other (by simp [hmem]))
    have hr := hphase r (by simp)
    unfold inPhase at hrest ⊢
    by_cases hold : r.phase = old
    · by_cases hmoves : moves r.condition
      · simp [hr, hold, hmoves, hcondition, hrest]
      · simp [hr, hold, hmoves, hrest]
    · simp [hr, hold, hrest]

end Registration

/-- A modal value as its users see it: every condition that was ever registered, in the order of
registration. The turn counts the accepted writes. -/
structure Lifecycle (V : Type) where
  value : V
  turn : Nat
  registrations : List (Registration V)
  since_lt : ∀ r ∈ registrations, ∀ since, r.phase = .active since → since < turn

namespace Lifecycle

open Registration

variable {V : Type}

def new (value : V) (conditions : List (Condition V)) : Lifecycle V where
  value := value
  turn := 0
  registrations := conditions.map fun c => ⟨c, .pending⟩
  since_lt := by
    intro r hmem since hr
    obtain ⟨c, _, rfl⟩ := List.mem_map.1 hmem
    cases hr

def attach (l : Lifecycle V) (condition : Condition V) : Lifecycle V where
  value := l.value
  turn := l.turn
  registrations := l.registrations ++ [⟨condition, .pending⟩]
  since_lt := by
    intro r hmem since hr
    rcases List.mem_append.1 hmem with hold | hnew
    · exact l.since_lt r hold since hr
    · rw [List.mem_singleton.1 hnew] at hr
      cases hr

def read (l : Lifecycle V) : Lifecycle V where
  value := l.value
  turn := l.turn
  registrations := l.registrations.map (afterRead l.value)
  since_lt := by
    intro r hmem since hr
    obtain ⟨old, hold, rfl⟩ := List.mem_map.1 hmem
    exact l.since_lt old hold since (afterRead_active_iff.1 hr).1

def accept (v : V) (l : Lifecycle V) : Lifecycle V where
  value := v
  turn := l.turn + 1
  registrations := l.registrations.map (afterWrite v l.turn)
  since_lt := by
    intro r hmem since hr
    obtain ⟨old, hold, rfl⟩ := List.mem_map.1 hmem
    rcases afterWrite_active_iff.1 hr with ⟨hactive, _⟩ | ⟨hturn, _⟩
    · have := l.since_lt old hold since hactive
      omega
    · omega

def Admits (l : Lifecycle V) (v : V) : Prop :=
  ∀ r ∈ l.registrations, r.Bound v → r.condition.Passes v

instance (l : Lifecycle V) (v : V) : Decidable (l.Admits v) :=
  inferInstanceAs (Decidable (∀ r ∈ l.registrations, _))

def write (v : V) (l : Lifecycle V) : Lifecycle V := if l.Admits v then l.accept v else l

def next (l : Lifecycle V) : Modal.Request V → Lifecycle V
  | .new value conditions => new value conditions
  | .write _ v => l.write v
  | .read _ => l.read
  | .attach condition => l.attach condition
  | .showDebug _ | .describeCondition _ _ => l

def run (l : Lifecycle V) (requests : List (Modal.Request V)) : Lifecycle V :=
  requests.foldl next l

def pending (l : Lifecycle V) : List (Condition V) := inPhase .pending l.registrations

/-- The active conditions, in the order of activation; those activated together are in the order of
registration. -/
def active (l : Lifecycle V) : List (Condition V) :=
  (List.range l.turn).flatMap fun since => inPhase (.active since) l.registrations

theorem mem_pending {l : Lifecycle V} {c : Condition V} :
    c ∈ l.pending ↔ ∃ r ∈ l.registrations, r.phase = .pending ∧ r.condition = c :=
  mem_inPhase

theorem mem_active {l : Lifecycle V} {c : Condition V} :
    c ∈ l.active ↔ ∃ r ∈ l.registrations, r.phase.isActive ∧ r.condition = c := by
  simp only [active, List.mem_flatMap, List.mem_range, mem_inPhase]
  constructor
  · rintro ⟨since, _, r, hmem, hr, hc⟩
    exact ⟨r, hmem, by rw [hr]; rfl, hc⟩
  · rintro ⟨r, hmem, hactive, hc⟩
    cases hr : r.phase with
    | active since => exact ⟨since, l.since_lt r hmem since hr, r, hmem, hr, hc⟩
    | pending => simp [hr, Phase.isActive] at hactive
    | discarded => simp [hr, Phase.isActive] at hactive

theorem admits_iff {l : Lifecycle V} {v : V} :
    l.Admits v ↔ (∀ c ∈ l.active, c.Passes v) ∧
      ∀ c ∈ l.pending, c.trigger.Holds v → c.Passes v := by
  constructor
  · intro h
    constructor
    · intro c hmem
      obtain ⟨r, hr, hactive, rfl⟩ := mem_active.1 hmem
      exact h r hr (.inl hactive)
    · intro c hmem ht
      obtain ⟨r, hr, hpending, rfl⟩ := mem_pending.1 hmem
      exact h r hr (.inr ⟨hpending, ht⟩)
  · rintro ⟨hactive, hpending⟩ r hr (hphase | ⟨hphase, ht⟩)
    · exact hactive _ (mem_active.2 ⟨r, hr, hphase, rfl⟩)
    · exact hpending _ (mem_pending.2 ⟨r, hr, hphase, rfl⟩) ht

theorem active_perm_before (rs : List (Registration V)) (turn : Nat) :
    ((List.range turn).flatMap fun since => inPhase (.active since) rs).Perm
      ((rs.filter fun r => r.phase.isActiveBefore turn).map condition) := by
  induction turn with
  | zero =>
    have hnone : (rs.filter fun r => r.phase.isActiveBefore 0) = [] := by
      rw [List.filter_eq_nil_iff]
      intro r _
      cases r.phase <;> simp [Phase.isActiveBefore]
    rw [hnone]
    exact .nil
  | succ turn ih =>
    have hold : ∀ r : Registration V,
        (r.phase.isActiveBefore turn && r.phase.isActiveBefore (turn + 1)) =
          r.phase.isActiveBefore turn := by
      intro r
      cases r.phase <;> grind [Phase.isActiveBefore]
    have hnew : ∀ r : Registration V,
        (!r.phase.isActiveBefore turn && r.phase.isActiveBefore (turn + 1)) =
          decide (r.phase = .active turn) := by
      intro r
      cases r.phase <;> grind [Phase.isActiveBefore]
    have hsplit := List.filter_append_perm (fun r => r.phase.isActiveBefore turn)
      (rs.filter fun r => r.phase.isActiveBefore (turn + 1))
    simp only [List.filter_filter, hold, hnew] at hsplit
    rw [List.range_succ, List.flatMap_append, List.flatMap_singleton]
    exact (ih.append_right _).trans (by simpa [inPhase] using hsplit.map condition)

/-- The list of active conditions has each registration that is active exactly once. -/
theorem active_perm (l : Lifecycle V) :
    l.active.Perm ((l.registrations.filter fun r => r.phase.isActive).map condition) := by
  have hbefore : (l.registrations.filter fun r => r.phase.isActiveBefore l.turn) =
      l.registrations.filter fun r => r.phase.isActive := by
    refine List.filter_congr fun r hmem => ?_
    cases hr : r.phase with
    | active since => simpa [Phase.isActiveBefore, Phase.isActive] using l.since_lt r hmem since hr
    | pending => rfl
    | discarded => rfl
  rw [← hbefore]
  exact active_perm_before l.registrations l.turn

@[simp] theorem pending_new (value : V) (conditions : List (Condition V)) :
    (new value conditions).pending = conditions := by
  induction conditions with
  | nil => rfl
  | cons c rest ih => simpa [pending, new, inPhase] using ih

@[simp] theorem active_new (value : V) (conditions : List (Condition V)) :
    (new value conditions).active = [] := rfl

@[simp] theorem pending_attach (l : Lifecycle V) (condition : Condition V) :
    (l.attach condition).pending = l.pending ++ [condition] := by
  simp [pending, attach, inPhase]

@[simp] theorem active_attach (l : Lifecycle V) (condition : Condition V) :
    (l.attach condition).active = l.active := by
  simp [active, attach, inPhase]

@[simp] theorem pending_read (l : Lifecycle V) : l.read.pending = l.pending := by
  have hall : l.pending.filter (fun _ => True) = l.pending := by simp
  rw [← hall]
  exact inPhase_map (condition_afterRead l.value) fun r _ => by simp [afterRead_pending_iff]

@[simp] theorem active_read (l : Lifecycle V) :
    l.read.active = l.active.filter fun c => ¬ c.Retires l.value := by
  unfold active
  rw [List.filter_flatMap]
  congr 1
  funext since
  exact inPhase_map (condition_afterRead l.value) fun _ _ => afterRead_active_iff

theorem pending_accept (v : V) (l : Lifecycle V) :
    (l.accept v).pending = l.pending.filter fun c => ¬ c.trigger.Holds v :=
  inPhase_map (condition_afterWrite v l.turn) fun _ _ => afterWrite_pending_iff

theorem active_accept (v : V) (l : Lifecycle V) :
    (l.accept v).active = (l.active.filter fun c => ¬ c.Retires v) ++
      l.pending.filter fun c => c.trigger.Holds v := by
  have hkept : ∀ since < l.turn,
      inPhase (.active since) (l.registrations.map (afterWrite v l.turn)) =
        (inPhase (.active since) l.registrations).filter fun c => ¬ c.Retires v := by
    intro since hsince
    refine inPhase_map (condition_afterWrite v l.turn) fun r _ => ?_
    rw [afterWrite_active_iff]
    have : since ≠ l.turn := by omega
    simp [this]
  have hnew : inPhase (.active l.turn) (l.registrations.map (afterWrite v l.turn)) =
      l.pending.filter fun c => c.trigger.Holds v := by
    refine inPhase_map (condition_afterWrite v l.turn) fun r hr => ?_
    rw [afterWrite_active_iff]
    have hfresh : r.phase ≠ .active l.turn := fun h => Nat.lt_irrefl _ (l.since_lt r hr _ h)
    simp [hfresh]
  unfold active
  rw [List.filter_flatMap]
  change (List.range (l.turn + 1)).flatMap (fun since => inPhase (.active since)
    (l.registrations.map (afterWrite v l.turn))) = _
  rw [List.range_succ, List.flatMap_append, List.flatMap_singleton, hnew, List.flatMap_def,
    List.flatMap_def, List.map_congr_left fun since hmem => hkept since (List.mem_range.1 hmem)]

end Lifecycle
end RuntimeContracts

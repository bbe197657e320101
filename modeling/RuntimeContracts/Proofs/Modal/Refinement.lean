import RuntimeContracts.Proofs.Modal.Enforcement
import RuntimeContracts.Proofs.Modal.Lifecycle

/-!
# Modal values follow their lifecycle

As long as no predicate and no check panics, the two lists of a modal value are those of its
lifecycle, and writes and reads are answered as the phases of the conditions demand.
-/

namespace RuntimeContracts

namespace Lifecycle

variable {V : Type}

structure Describes (l : Lifecycle V) (modal : Modal V) : Prop where
  value : modal.value = l.value
  pending : modal.pending = l.pending
  active : modal.active = l.active

theorem describes_new (value : V) (conditions : List (Condition V)) :
    (new value conditions).Describes (Modal.new value conditions) :=
  ⟨rfl, (pending_new value conditions).symm, (active_new value conditions).symm⟩

theorem Describes.attach {l : Lifecycle V} {modal : Modal V} (h : l.Describes modal)
    (condition : Condition V) : (l.attach condition).Describes (modal.attach condition) where
  value := h.value
  pending := by rw [pending_attach, ← h.pending]; rfl
  active := by rw [active_attach, ← h.active]; rfl

variable [Describe V]

/-- How a write that does not panic ends, read off the lifecycle. -/
theorem Describes.writeEnd {l : Lifecycle V} {modal final : Modal V} {v : V}
    {outcome : Outcome Violation Unit} (h : l.Describes modal)
    (hends : Modal.WriteEnd modal v final outcome) (hquiet : outcome.isPanicked = false) :
    (l.write v).Describes final ∧
      (outcome = .returned () ∧ l.Admits v ∨
        ∃ r ∈ l.registrations, r.Bound v ∧ ∃ reason, r.condition.FailsWith v reason ∧
          outcome = .refused (r.condition.violation v reason)) := by
  cases hends with
  | committed hactive hpending =>
    rw [h.active] at hactive
    rw [h.pending] at hpending
    have hadmits : l.Admits v := admits_iff.2 ⟨hactive, hpending⟩
    have haccept : l.write v = l.accept v := if_pos hadmits
    refine ⟨?_, .inl ⟨rfl, hadmits⟩⟩
    rw [haccept, h.pending, h.active]
    exact ⟨rfl, (pending_accept v l).symm, (active_accept v l).symm⟩
  | @refused c reason hbound hfails =>
    obtain ⟨r, hmem, hr, rfl⟩ : ∃ r ∈ l.registrations, r.Bound v ∧ r.condition = c := by
      rw [h.active, h.pending] at hbound
      rcases hbound with hactive | ⟨hpending, ht⟩
      · obtain ⟨r, hmem, hphase, rfl⟩ := mem_active.1 hactive
        exact ⟨r, hmem, .inl hphase, rfl⟩
      · obtain ⟨r, hmem, hphase, rfl⟩ := mem_pending.1 hpending
        exact ⟨r, hmem, .inr ⟨hphase, ht⟩, rfl⟩
    have hrejects : ¬ l.Admits v := fun hadmits =>
      Condition.not_passes_of_failsWith hfails (hadmits r hmem hr)
    have hsame : l.write v = l := if_neg hrejects
    rw [hsame]
    exact ⟨h, .inr ⟨r, hmem, hr, reason, hfails, rfl⟩⟩
  | interruptedCheck text => cases hquiet
  | interruptedRelease hsplit hpanics => cases hquiet

theorem Describes.write {l : Lifecycle V} {modal : Modal V} (h : l.Describes modal) {v : V}
    (hquiet : (Modal.write v modal).2.outcome.isPanicked = false) :
    (l.write v).Describes (Modal.write v modal).1 ∧
      ((Modal.write v modal).2.outcome = .returned () ∧ l.Admits v ∨
        ∃ r ∈ l.registrations, r.Bound v ∧ ∃ reason, r.condition.FailsWith v reason ∧
          (Modal.write v modal).2.outcome = .refused (r.condition.violation v reason)) :=
  h.writeEnd (Modal.write_ends modal v) hquiet

/-- How a read that does not panic ends. Nothing refuses it, as the value is enforced. -/
theorem Describes.readEnd {l : Lifecycle V} {modal final : Modal V}
    {outcome : Outcome Violation V} (h : l.Describes modal) (henforced : modal.Enforced)
    (hends : Modal.ReadEnd modal final outcome) (hquiet : outcome.isPanicked = false) :
    l.read.Describes final ∧ outcome = .returned l.value := by
  cases hends with
  | answered hactive =>
    rw [h.value, h.active]
    exact ⟨⟨rfl, by rw [pending_read, ← h.pending], by rw [active_read]⟩, rfl⟩
  | @refused c reason hbound hfails =>
    exact absurd (henforced c hbound) (Condition.not_passes_of_failsWith hfails)
  | interruptedRelease hsplit hpanics => cases hquiet
  | interruptedCheck text hactive => cases hquiet

theorem Describes.read {l : Lifecycle V} {modal : Modal V} (h : l.Describes modal)
    (henforced : modal.Enforced) (hquiet : (Modal.read modal).2.outcome.isPanicked = false) :
    l.read.Describes (Modal.read modal).1 ∧
      (Modal.read modal).2.outcome = .returned l.value :=
  h.readEnd henforced (Modal.read_ends modal) hquiet

/-- A request that does not panic takes a described modal value to a described one. -/
theorem Describes.next {l : Lifecycle V} {modal : Modal V} (h : l.Describes modal)
    (henforced : modal.Enforced) {request : Modal.Request V}
    (hquiet : (Modal.attempt request (some modal)).2.outcome.isPanicked = false) :
    ∃ final, (Modal.attempt request (some modal)).1 = some final ∧
      (l.next request).Describes final ∧ final.Enforced := by
  cases request with
  | new value conditions =>
    exact ⟨_, rfl, describes_new value conditions, Modal.enforced_new value conditions⟩
  | write form v =>
    rw [Modal.attempt_write_some] at hquiet ⊢
    rw [Outcome.isPanicked_map] at hquiet
    exact ⟨_, rfl, (h.write hquiet).1, Modal.enforced_write henforced v⟩
  | read form =>
    rw [Modal.attempt_read_some] at hquiet ⊢
    rw [Outcome.isPanicked_map] at hquiet
    exact ⟨_, rfl, (h.read henforced hquiet).1, Modal.enforced_read henforced⟩
  | attach condition =>
    exact ⟨_, rfl, h.attach condition, Modal.enforced_attach henforced condition⟩
  | showDebug pretty => exact ⟨modal, rfl, h, henforced⟩
  | describeCondition condition pretty => exact ⟨modal, rfl, h, henforced⟩

theorem Describes.run {mode : FailureMode} {requests : List (Modal.Request V)} {l : Lifecycle V}
    {modal : Modal V} (h : l.Describes modal) (henforced : modal.Enforced)
    (hquiet : Modal.machine.Along (fun request s =>
      (Modal.attempt request s).2.outcome.isPanicked = false) (some modal) requests) :
    ∃ final, Session.finalState (Modal.machine.step mode) (some modal) requests = some final ∧
      (l.run requests).Describes final ∧ final.Enforced := by
  induction requests generalizing l modal with
  | nil => exact ⟨modal, rfl, h, henforced⟩
  | cons request rest ih =>
    obtain ⟨hfirst, hrest⟩ := hquiet
    obtain ⟨final, hstep, hdescribes, hfinal⟩ := h.next henforced hfirst
    change Modal.machine.Along _ (Modal.attempt request (some modal)).1 rest at hrest
    rw [hstep] at hrest
    rw [Session.finalState_cons, Machine.step_fst]
    change ∃ last, Session.finalState _ (Modal.attempt request (some modal)).1 rest = _ ∧ _
    rw [hstep]
    exact ih hdescribes hfinal hrest

structure Governs (l : Lifecycle V) (modal : Modal V) : Prop extends l.Describes modal where
  active_perm : modal.active.Perm
    ((l.registrations.filter fun r => r.phase.isActive).map Registration.condition)
  write_accepted_iff : ∀ form v,
    (Modal.attempt (.write form v) (some modal)).2.outcome.isPanicked = false →
      ((Modal.attempt (.write form v) (some modal)).2.outcome = .returned (some .done) ↔
        l.Admits v)
  write_refused : ∀ form v,
    (Modal.attempt (.write form v) (some modal)).2.outcome.isPanicked = false → ¬ l.Admits v →
      ∃ r ∈ l.registrations, r.Bound v ∧ ∃ reason, r.condition.FailsWith v reason ∧
        (Modal.attempt (.write form v) (some modal)).2.outcome =
          .refused (r.condition.violation v reason)
  read_answered : ∀ form,
    (Modal.attempt (.read form) (some modal)).2.outcome.isPanicked = false →
      (Modal.attempt (.read form) (some modal)).2.outcome = .returned (some (.value l.value))

theorem Describes.write_answer {l : Lifecycle V} {modal : Modal V} (h : l.Describes modal)
    {form : Form} {v : V}
    (hquiet : (Modal.attempt (.write form v) (some modal)).2.outcome.isPanicked = false) :
    (Modal.attempt (.write form v) (some modal)).2.outcome = .returned (some .done) ∧ l.Admits v ∨
      ∃ r ∈ l.registrations, r.Bound v ∧ ∃ reason, r.condition.FailsWith v reason ∧
        (Modal.attempt (.write form v) (some modal)).2.outcome =
          .refused (r.condition.violation v reason) := by
  rw [Modal.attempt_write_some] at hquiet ⊢
  rw [Outcome.isPanicked_map] at hquiet
  rcases (h.write hquiet).2 with ⟨ho, hadmits⟩ | ⟨r, hmem, hr, reason, hfails, ho⟩
  · exact .inl ⟨by rw [ho]; rfl, hadmits⟩
  · exact .inr ⟨r, hmem, hr, reason, hfails, by rw [ho]; rfl⟩

theorem Describes.governs {l : Lifecycle V} {modal : Modal V} (h : l.Describes modal)
    (henforced : modal.Enforced) : l.Governs modal where
  toDescribes := h
  active_perm := by
    rw [h.active]
    exact l.active_perm
  write_accepted_iff form v hquiet := by
    rcases h.write_answer hquiet with ⟨ho, hadmits⟩ | ⟨r, hmem, hr, reason, hfails, ho⟩
    · exact iff_of_true ho hadmits
    · refine iff_of_false (by simp [ho]) fun hadmits => ?_
      exact Condition.not_passes_of_failsWith hfails (hadmits r hmem hr)
  write_refused form v hquiet hrejects := by
    rcases h.write_answer hquiet with ⟨_, hadmits⟩ | hrefused
    · exact absurd hadmits hrejects
    · exact hrefused
  read_answered form hquiet := by
    rw [Modal.attempt_read_some] at hquiet ⊢
    rw [Outcome.isPanicked_map] at hquiet
    rw [(h.read henforced hquiet).2]
    rfl

/-- A modal value refines its lifecycle: after any run in which nothing panics, the lifecycle that
went through the same requests governs it. -/
theorem run_governs_finalState (mode : FailureMode) (value : V) (conditions : List (Condition V))
    (requests : List (Modal.Request V))
    (hquiet : Modal.machine.Along (fun request s =>
      (Modal.machine.attempt request s).2.outcome.isPanicked = false)
      (some (Modal.new value conditions)) requests) :
    ∃ modal, Session.finalState (Modal.machine.step mode) (some (Modal.new value conditions))
        requests = some modal ∧
      ((new value conditions).run requests).Governs modal := by
  obtain ⟨modal, hfinal, hdescribes, henforced⟩ :=
    (describes_new value conditions).run (Modal.enforced_new value conditions) hquiet
  exact ⟨modal, hfinal, hdescribes.governs henforced⟩

/-- Once a text is final it must not become a draft again, until it is finalized anew. -/
def locked : Condition String :=
  (Condition.ofRequirement "locked" (.named "final" fun text => .ok (text == "final"))
    (.negate (.named "draft" fun text => .ok (text == "draft")))).retireWhen
      (.named "final" fun text => .ok (text == "final"))

def finalizedTwice : List (Modal.Request String) :=
  [.write .checked "final", .attach locked, .write .checked "draft", .write .failFast "final",
    .write .checked "review", .read .failFast]

theorem governs_finalized_twice :
    Modal.machine.Along (fun request s =>
        (Modal.machine.attempt request s).2.outcome.isPanicked = false)
        (some (Modal.new "draft" [locked, locked])) finalizedTwice ∧
      (∃ modal, Session.finalState (Modal.machine.step .panic)
          (some (Modal.new "draft" [locked, locked])) finalizedTwice = some modal ∧
        ((new "draft" [locked, locked]).run finalizedTwice).Governs modal) ∧
      ((new "draft" [locked, locked]).run finalizedTwice).registrations.map (·.phase) =
        [.discarded, .discarded, .active 1] := by
  have hquiet : Modal.machine.Along (fun request s =>
      (Modal.machine.attempt request s).2.outcome.isPanicked = false)
      (some (Modal.new "draft" [locked, locked])) finalizedTwice :=
    ⟨by decide, by decide, by decide, by decide, by decide, by decide, trivial⟩
  exact ⟨hquiet, run_governs_finalState .panic "draft" [locked, locked] finalizedTwice hquiet,
    by decide⟩

end Lifecycle
end RuntimeContracts

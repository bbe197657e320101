import Mathlib.Data.List.Basic
import Mathlib.Data.List.Forall2
import RuntimeContracts.Proofs.Modal.Enforcement
import RuntimeContracts.Proofs.Modal.EventLog
import RuntimeContracts.Proofs.Modal.Release

/-!
# Interrupted accesses

A predicate or a check that panics interrupts the access that evaluates it. Before the release
nothing has changed, in the release the conditions up to the panic have been dealt with, and after
the release nothing panics. So no access loses or doubles a condition: each that was registered is
pending, active, or was released when its discard predicate returned `true`.
-/

namespace RuntimeContracts.Modal

open Session

variable {V α : Type}

structure Clears (modal : Modal V) (v : V) : Prop where
  active : ∀ c ∈ modal.active, c.Passes v
  pending : ∀ c ∈ modal.pending, c.trigger.Holds v ∧ c.Passes v ∨ c.trigger.Fails v

def Binds (modal : Modal V) (v : V) (c : Condition V) : Prop :=
  c ∈ modal.active ∨ c ∈ modal.pending ∧ c.trigger.Holds v

def committed (modal : Modal V) (v : V) : Modal V where
  value := v
  pending := modal.pending.filter fun c => ¬ c.trigger.Holds v
  active := (modal.active.filter fun c => ¬ c.Retires v) ++
    modal.pending.filter fun c => c.trigger.Holds v

/-- An access with the value is stopped by its checks, which change nothing; or it is interrupted
in its release, which the value and the pending conditions survive; or it is completed. -/
structure PanicSafe (modal : Modal V) (v : V) (clears : Prop) (completed : Modal V) (answer : α)
    (access : Modal V × Run Violation α) : Prop where
  of_stopped : ¬ clears → access.1 = modal ∧ ∀ a, access.2.outcome ≠ .returned a
  of_panic : clears → ∀ {earlier rest : List (Condition V)} {c : Condition V} {text : String},
    modal.active = earlier ++ c :: rest → (∀ b ∈ earlier, b.DiscardAnswers v) →
      c.DiscardPanicsWith v text →
        access.1 = { modal with active := (earlier.filter fun b => ¬ b.Retires v) ++ c :: rest } ∧
          access.2.outcome = .panicked text
  of_answers : clears → (∀ c ∈ modal.active, c.DiscardAnswers v) →
    access.1 = completed ∧ access.2.outcome = .returned answer

/-- An access that does not return has kept the value and all pending conditions. -/
theorem PanicSafe.kept {modal completed : Modal V} {v : V} {clears : Prop} {answer : α}
    {access : Modal V × Run Violation α} (h : PanicSafe modal v clears completed answer access)
    (hnone : ∀ a, access.2.outcome ≠ .returned a) :
    access.1.value = modal.value ∧ access.1.pending = modal.pending := by
  by_cases hclears : clears
  · rcases Condition.answers_or_first_panic v modal.active with
      hanswers | ⟨earlier, c, rest, text, hsplit, hearlier, hpanics⟩
    · exact absurd (h.of_answers hclears hanswers).2 (hnone answer)
    · rw [(h.of_panic hclears hsplit hearlier hpanics).1]
      exact ⟨rfl, rfl⟩
  · rw [(h.of_stopped hclears).1]
    exact ⟨rfl, rfl⟩

variable [Describe V]

theorem checkTriggered_returned_iff {v : V} {conditions : List (Condition V)} :
    (checkTriggered v conditions).outcome = .returned () ↔
      ∀ c ∈ conditions, c.trigger.Holds v ∧ c.Passes v ∨ c.trigger.Fails v := by
  refine ⟨fun h c hmem => checkTriggered_of_returned h hmem, fun h => ?_⟩
  rw [checkTriggered_eq_each, Run.each_returned_iff]
  intro c hmem
  unfold Condition.demandTriggered
  rw [Predicate.eval_eq, Run.after_bind, Run.outcome_after]
  rcases h c hmem with ⟨hholds, hpasses⟩ | hfails
  · rw [Predicate.holds_iff.1 hholds]
    exact Condition.demand_returned_iff.2 hpasses
  · rw [Predicate.fails_iff.1 hfails]
    rfl

theorem clears_iff {modal : Modal V} {v : V} :
    modal.Clears v ↔ (modal.writeChecks v).outcome = .returned () := by
  unfold writeChecks
  constructor
  · rintro ⟨hactive, hpending⟩
    rw [Run.bind_of_returned (checkAll_returned_iff.2 hactive)]
    exact checkTriggered_returned_iff.2 hpending
  · intro h
    obtain ⟨_, hactive, hpending⟩ := Run.exists_of_bind_returned h
    exact ⟨checkAll_returned_iff.1 hactive, checkTriggered_returned_iff.1 hpending⟩

/-- Checks that do not pass refuse or panic. -/
theorem writeChecks_ends {modal : Modal V} {v : V} (h : ¬ modal.Clears v) :
    (∃ c, modal.Binds v c ∧ ∃ reason, c.FailsWith v reason ∧
        (modal.writeChecks v).outcome = .refused (c.violation v reason)) ∨
      ∃ text, (modal.writeChecks v).outcome = .panicked text := by
  rw [clears_iff] at h
  unfold writeChecks at h ⊢
  by_cases hactive : (checkAll v modal.active).outcome = .returned ()
  · rw [Run.bind_of_returned hactive] at h ⊢
    rcases checkTriggered_ends h with ⟨c, hmem, ht, reason, hfails, ho⟩ | hpanicked
    · exact .inl ⟨c, .inr ⟨hmem, ht⟩, reason, hfails, ho⟩
    · exact .inr hpanicked
  · rcases checkAll_ends hactive with ⟨c, hmem, reason, hfails, ho⟩ | ⟨text, ho⟩
    · rw [Run.bind_of_refused ho]
      exact .inl ⟨c, .inl hmem, reason, hfails, rfl⟩
    · rw [Run.bind_of_panicked ho]
      exact .inr ⟨text, rfl⟩

def Stops (run : Run Violation Unit) : Prop :=
  (∃ e, run.outcome = .refused e) ∨ ∃ text, run.outcome = .panicked text

theorem stops_writeChecks {modal : Modal V} {v : V} (h : ¬ modal.Clears v) :
    Stops (modal.writeChecks v) :=
  (writeChecks_ends h).imp_left fun ⟨c, _, reason, _, ho⟩ => ⟨c.violation v reason, ho⟩

theorem stops_checkAll {v : V} {conditions : List (Condition V)}
    (h : ¬ ∀ c ∈ conditions, c.Passes v) : Stops (checkAll v conditions) :=
  (checkAll_ends (mt checkAll_returned_iff.1 h)).imp_left
    fun ⟨c, _, reason, _, ho⟩ => ⟨c.violation v reason, ho⟩

theorem settle_of_answers {modal : Modal V} {v : V}
    (h : ∀ c ∈ modal.pending, c.trigger.Holds v ∨ c.trigger.Fails v) :
    (settle v modal).1 = ⟨v, modal.pending.filter fun c => ¬ c.trigger.Holds v,
        modal.active ++ modal.pending.filter fun c => c.trigger.Holds v⟩ ∧
      (settle v modal).2.outcome = .returned () := by
  obtain ⟨ho, hstate⟩ := activatePending_ends (ε := Violation) modal h
  rw [settle, Act.bind_apply_of_returned ho, hstate]
  exact ⟨rfl, rfl⟩

theorem panicSafe_accessing {checks : Run Violation Unit} {modal completed : Modal V} {v : V}
    {clears : Prop} {answer : α} {next : Act (Modal V) Violation α}
    (hclears : clears → checks.outcome = .returned ())
    (hstops : ¬ clears → Stops checks)
    (hnext : clears →
      let rest := next { modal with active := modal.active.filter fun c => ¬ c.Retires v }
      rest.1 = completed ∧ rest.2.outcome = .returned answer) :
    PanicSafe modal v clears completed answer (accessing checks v next modal) where
  of_stopped h := by
    rcases hstops h with ⟨e, ho⟩ | ⟨text, ho⟩
    · rw [accessing_of_refused ho]
      exact ⟨rfl, nofun⟩
    · rw [accessing_of_panicked ho]
      exact ⟨rfl, nofun⟩
  of_panic h _ _ _ _ hsplit hearlier hpanics := by
    rw [accessing_of_panic (hclears h) hsplit hearlier hpanics]
    exact ⟨rfl, rfl⟩
  of_answers h hanswers := by
    rw [accessing_of_answers (hclears h) hanswers]
    exact hnext h

/-- Every trigger has answered when the release is complete, and answers the same again. -/
theorem panicSafe_write (modal : Modal V) (v : V) :
    PanicSafe modal v (modal.Clears v) (modal.committed v) () (write v modal) := by
  rw [write_eq_accessing]
  refine panicSafe_accessing clears_iff.1 stops_writeChecks fun h => ?_
  exact settle_of_answers fun c hmem => (h.pending c hmem).imp And.left id

theorem panicSafe_read (modal : Modal V) :
    PanicSafe modal modal.value modal.Enforced
      { modal with active := modal.active.filter fun c => ¬ c.Retires modal.value } modal.value
      (read modal) := by
  rw [read_eq_accessing]
  exact panicSafe_accessing checkAll_returned_iff.2 stops_checkAll fun _ => ⟨rfl, rfl⟩

/-! ## Where the conditions are -/

omit [Describe V] in
def conditions (modal : Modal V) : List (Condition V) := modal.pending ++ modal.active

def Request.attached : Request V → List (Condition V)
  | .attach condition => [condition]
  | _ => []

/-- The value that the request accesses: the candidate of a write, the stored value of a read. -/
def Request.accessed? (modal : Modal V) : Request V → Option V
  | .write _ v => some v
  | .read _ => some modal.value
  | _ => none

/-- The conditions were active, and the trace shows for each that its discard predicate was
evaluated on the accessed value. It returned `true`. -/
structure Releases (modal : Modal V) (request : Request V) (trace : Trace)
    (gone : List (Condition V)) : Prop where
  sublist : gone.Sublist modal.active
  evaluated : ∀ c ∈ gone, ∃ v p, request.accessed? modal = some v ∧ c.discard = some p ∧
    p.Holds v ∧ (p.tests v ++ [c.discardReport v]) <:+: trace

structure Passage (modal : Modal V) (request : Request V) (trace : Trace)
    (gone : List (Condition V)) (after : Modal V) : Prop
    extends Releases modal request trace gone where
  perm : (after.conditions ++ gone).Perm (modal.conditions ++ request.attached)

theorem releases_nil (modal : Modal V) (request : Request V) (trace : Trace) :
    Releases modal request trace [] := ⟨List.nil_sublist _, nofun⟩

/-- Every condition that has answered and is discarded shows in the trace. -/
theorem releases_of_answers {modal : Modal V} {request : Request V} {v : V} {trace : Trace}
    {earlier rest : List (Condition V)} (haccessed : request.accessed? modal = some v)
    (hsplit : modal.active = earlier ++ rest)
    (htrace : earlier.flatMap (Condition.releaseTrace v) <:+: trace) :
    Releases modal request trace (earlier.filter fun c => c.Retires v) where
  sublist := by
    rw [hsplit]
    exact List.filter_sublist.trans (List.sublist_append_left earlier rest)
  evaluated c hmem := by
    obtain ⟨hearlier, hretires⟩ := List.mem_filter.1 hmem
    have hretires : c.Retires v := of_decide_eq_true hretires
    have hshown : c.releaseTrace v <:+: trace := by
      obtain ⟨before, after, hparts⟩ := List.append_of_mem hearlier
      refine List.IsInfix.trans ⟨before.flatMap (Condition.releaseTrace v),
        after.flatMap (Condition.releaseTrace v), ?_⟩ htrace
      simp [hparts]
    cases hdiscard : c.discard with
    | none => simp [Condition.retires_iff, Condition.discardVerdict, hdiscard] at hretires
    | some p =>
      refine ⟨v, p, haccessed, rfl, ?_, ?_⟩
      · simpa [Condition.retires_iff, Condition.discardVerdict, hdiscard,
          Predicate.holds_iff] using hretires
      · simpa [Condition.releaseTrace, Condition.discardTests, hdiscard, hretires] using hshown

omit [Describe V] in
theorem perm_append_right_comm (kept first second : List (Condition V)) :
    (kept ++ first ++ second).Perm (kept ++ second ++ first) := by
  rw [List.append_assoc, List.append_assoc]
  exact List.Perm.append_left kept List.perm_append_comm

omit [Describe V] in
/-- What a release drops and what it keeps are what there was. -/
theorem perm_of_release {modal : Modal V} {v : V} {earlier rest : List (Condition V)}
    (hsplit : modal.active = earlier ++ rest) :
    (conditions { modal with active := (earlier.filter fun c => ¬ c.Retires v) ++ rest } ++
      earlier.filter fun c => c.Retires v).Perm modal.conditions := by
  have hfilter : ((earlier.filter fun c => ¬ c.Retires v) ++
      earlier.filter fun c => c.Retires v).Perm earlier := by
    simpa using List.filter_append_perm (fun c : Condition V => ¬ c.Retires v) earlier
  unfold conditions
  rw [hsplit, List.append_assoc]
  exact List.Perm.append_left _ ((perm_append_right_comm ..).trans (hfilter.append_right rest))

theorem perm_of_settle {modal : Modal V} {v : V}
    (h : ∀ c ∈ modal.pending, c.trigger.Holds v ∨ c.trigger.Fails v) :
    (settle v modal).1.conditions.Perm modal.conditions := by
  have hfilter := List.filter_append_perm (fun c : Condition V => ¬ c.trigger.Holds v) modal.pending
  rw [(settle_of_answers h).1, conditions, conditions]
  refine (List.Perm.append_left _ List.perm_append_comm).trans ?_
  rw [← List.append_assoc]
  exact List.Perm.append_right _ (by simpa using hfilter)

theorem passage_of_stopped {modal : Modal V} {request : Request V} (trace : Trace)
    (hattached : request.attached = []) : Passage modal request trace [] modal where
  toReleases := releases_nil modal request trace
  perm := by rw [hattached]

theorem exists_passage_accessing {checks : Run Violation Unit} {modal : Modal V} {v : V}
    {next : Act (Modal V) Violation α} {request : Request V}
    (haccessed : request.accessed? modal = some v) (hattached : request.attached = [])
    (hchecks : checks.outcome = .returned () ∨ Stops checks)
    (hnext : checks.outcome = .returned () →
      let released : Modal V :=
        { modal with active := modal.active.filter fun c => ¬ c.Retires v }
      (next released).1.conditions.Perm released.conditions) :
    ∃ gone, Passage modal request (accessing checks v next modal).2.trace gone
      (accessing checks v next modal).1 := by
  rcases hchecks with ho | ⟨e, ho⟩ | ⟨text, ho⟩
  · rcases Condition.answers_or_first_panic v modal.active with
      hanswers | ⟨earlier, c, rest, text, hsplit, hearlier, hpanics⟩
    · have hall : modal.active = modal.active ++ [] := (List.append_nil _).symm
      have hperm := perm_of_release (v := v) hall
      rw [List.append_nil] at hperm
      rw [accessing_of_answers ho hanswers]
      refine ⟨_, releases_of_answers haccessed hall ?_, ?_⟩
      · rw [Run.trace_after]
        exact ⟨checks.trace, _, rfl⟩
      · rw [hattached, List.append_nil]
        exact ((hnext ho).append_right _).trans hperm
    · rw [accessing_of_panic ho hsplit hearlier hpanics]
      refine ⟨_, releases_of_answers haccessed hsplit ?_, ?_⟩
      · exact ⟨checks.trace, c.discardTests v, List.append_assoc ..⟩
      · rw [hattached, List.append_nil]
        exact perm_of_release hsplit
  · rw [accessing_of_refused ho]
    exact ⟨[], passage_of_stopped _ hattached⟩
  · rw [accessing_of_panicked ho]
    exact ⟨[], passage_of_stopped _ hattached⟩

theorem exists_passage_write (modal : Modal V) (form : Form) (v : V) :
    ∃ gone, Passage modal (.write form v) (write v modal).2.trace gone (write v modal).1 := by
  rw [write_eq_accessing]
  refine exists_passage_accessing rfl rfl ?_ fun hchecks => ?_
  · by_cases hclears : modal.Clears v
    · exact .inl (clears_iff.1 hclears)
    · exact .inr (stops_writeChecks hclears)
  · exact perm_of_settle fun c hmem => ((clears_iff.2 hchecks).pending c hmem).imp And.left id

theorem exists_passage_read (modal : Modal V) (form : Form) :
    ∃ gone, Passage modal (.read form) (read modal).2.trace gone (read modal).1 := by
  rw [read_eq_accessing]
  refine exists_passage_accessing rfl rfl ?_ fun _ => .refl _
  by_cases henforced : modal.Enforced
  · exact .inl (checkAll_returned_iff.2 henforced)
  · exact .inr (stops_checkAll henforced)

/-- Every access is a passage, however it ends. -/
theorem exists_passage_attempt {request : Request V} (haccess : request.isAccess = true)
    (modal : Modal V) : ∃ final gone, (attempt request (some modal)).1 = some final ∧
      Passage modal request (attempt request (some modal)).2.trace gone final := by
  cases request with
  | new value conditions => cases haccess
  | write form v =>
    rw [attempt_write_some]
    exact ⟨_, (exists_passage_write modal form v).imp fun gone h => ⟨rfl, h⟩⟩
  | read form =>
    rw [attempt_read_some]
    exact ⟨_, (exists_passage_read modal form).imp fun gone h => ⟨rfl, h⟩⟩
  | attach condition =>
    refine ⟨modal.attach condition, [], rfl, releases_nil modal _ _, ?_⟩
    change (modal.pending ++ [condition] ++ modal.active ++ []).Perm
      (modal.pending ++ modal.active ++ [condition])
    rw [List.append_nil]
    exact perm_append_right_comm ..
  | showDebug pretty => exact ⟨modal, [], rfl, passage_of_stopped _ rfl⟩
  | describeCondition condition pretty => exact ⟨modal, [], rfl, passage_of_stopped _ rfl⟩

/-- Enforcing a violation keeps what the trace shows. -/
theorem Passage.inForm {modal after : Modal V} {request : Request V} {run : Run Violation α}
    {gone : List (Condition V)} (h : Passage modal request run.trace gone after)
    (mode : FailureMode) (form : Form) :
    Passage modal request (run.inForm mode form).trace gone after := by
  refine { h with evaluated := fun c hmem => ?_ }
  obtain ⟨v, p, haccessed, hdiscard, hholds, hshown⟩ := h.evaluated c hmem
  refine ⟨v, p, haccessed, hdiscard, hholds, ?_⟩
  rcases run.trace_inForm mode form with htrace | ⟨e, htrace⟩
  · rw [htrace]
    exact hshown
  · rw [htrace]
    exact hshown.trans (List.prefix_append _ _).isInfix

abbrev AccessTurn (V : Type) := Turn (Option (Modal V)) (Request V) Violation (Option (Reply V))

def ReleasesIn (turn : AccessTurn V) (gone : List (Condition V)) : Prop :=
  ∃ modal, turn.before = some modal ∧
    Releases modal turn.request turn.report.run.trace gone

/-- What a session keeps and what its turns have released is what there was and what its turns have
registered. -/
theorem turns_account (mode : FailureMode) {requests : List (Request V)}
    (haccess : ∀ request ∈ requests, request.isAccess = true) (modal : Modal V) :
    let turns := turns (machine.step mode) (some modal) requests
    ∃ last gone, lastState (some modal) (turns.map Turn.report) = some last ∧
      List.Forall₂ ReleasesIn turns gone ∧
      (last.conditions ++ gone.flatten).Perm
        (modal.conditions ++ turns.flatMap fun turn => turn.request.attached) := by
  induction requests generalizing modal with
  | nil => exact ⟨modal, [], rfl, .nil, .refl _⟩
  | cons request rest ih =>
    obtain ⟨final, gone, hfinal, hpassage⟩ :=
      exists_passage_attempt (haccess request List.mem_cons_self) modal
    have hstate : (machine.step mode request (some modal)).1 = some final := hfinal
    have hstep : Passage modal request (machine.step mode request (some modal)).2.trace gone
        final := hpassage.inForm mode request.form
    intro turns
    have hturns : turns = ⟨request, some modal, ⟨(machine.step mode request (some modal)).2,
        some final⟩⟩ :: if (machine.step mode request (some modal)).2.outcome.isAborted then [] else
          Session.turns (machine.step mode) (some final) rest := by
      rw [← hstate]
      rfl
    have hfirst : ReleasesIn ⟨request, some modal,
        ⟨(machine.step mode request (some modal)).2, some final⟩⟩ gone :=
      ⟨modal, rfl, hstep.toReleases⟩
    rw [hturns]
    split
    · refine ⟨final, [gone], rfl, .cons hfirst .nil, ?_⟩
      simpa using hstep.perm
    · -- What the first turn has released moves behind what the others release.
      obtain ⟨last, others, hlast, hothers, hperm⟩ :=
        ih (fun other hmem => haccess other (List.mem_cons_of_mem request hmem)) final
      refine ⟨last, gone :: others, hlast, .cons hfirst hothers, ?_⟩
      rw [List.flatten_cons, List.flatMap_cons, ← List.append_assoc]
      calc
        List.Perm (last.conditions ++ gone ++ others.flatten)
            (last.conditions ++ others.flatten ++ gone) := perm_append_right_comm ..
        List.Perm _ (final.conditions ++ _ ++ gone) := hperm.append_right gone
        List.Perm _ (final.conditions ++ gone ++ _) := perm_append_right_comm ..
        List.Perm _ (modal.conditions ++ request.attached ++ _) := hstep.perm.append_right _
        _ = _ := List.append_assoc ..

/-- However predicates and checks panic, a write and a read change nothing before their release, and
keep what an interrupted release has not come to; a write whose release is complete is accepted. So
after any accesses, in any forms and however they end, every condition that was registered is
pending, active, or was released by one turn, whose trace shows that its discard predicate was
evaluated. -/
theorem interrupted_accesses_lose_no_condition :
    (∀ (modal : Modal V) (v : V),
      PanicSafe modal v (modal.Clears v) (modal.committed v) () (write v modal)) ∧
    (∀ modal : Modal V, PanicSafe modal modal.value modal.Enforced
      { modal with active := modal.active.filter fun c => ¬ c.Retires modal.value } modal.value
      (read modal)) ∧
    (∀ (modal : Modal V) (v : V), (∀ a, (write v modal).2.outcome ≠ .returned a) →
      (write v modal).1.value = modal.value ∧ (write v modal).1.pending = modal.pending) ∧
    ∀ (mode : FailureMode) (value : V) (conditions : List (Condition V))
      (requests : List (Request V)), (∀ request ∈ requests, request.isAccess = true) →
      let start := some (Modal.new value conditions)
      let turns := turns (machine.step mode) start requests
      ∃ modal gone, lastState start (turns.map Turn.report) = some modal ∧
        List.Forall₂ ReleasesIn turns gone ∧
        (modal.pending ++ modal.active ++ gone.flatten).Perm
          (conditions ++ turns.flatMap fun turn => turn.request.attached) := by
  refine ⟨panicSafe_write, panicSafe_read, fun modal v => (panicSafe_write modal v).kept, ?_⟩
  intro mode value conditions requests haccess start turns
  obtain ⟨modal, gone, hlast, hgone, hperm⟩ :=
    turns_account mode haccess (Modal.new value conditions)
  refine ⟨modal, gone, hlast, hgone, ?_⟩
  have hstart : (Modal.new value conditions).conditions = conditions := List.append_nil conditions
  rw [hstart] at hperm
  exact hperm

/-- The empty phase has released `brief` when the discard of the first `held` interrupts it, and all
else is kept. -/
theorem interrupted_release_loses_no_condition :
    let before : Modal String := ⟨"started", [held], [brief, held, held]⟩
    let after : Modal String := ⟨"started", [held], [held, held]⟩
    before.Clears "" ∧ (∀ b ∈ [brief], b.DiscardAnswers "") ∧
      held.DiscardPanicsWith "" "no phase" ∧ (write "" before).1 = after ∧
      (write "" before).2.outcome = .panicked "no phase" ∧
      (∀ request ∈ phases, request.isAccess = true) ∧
      ∃ gone, List.Forall₂ ReleasesIn
          (turns (machine.step .panic) (some (Modal.new "idle" [brief, held, held])) phases) gone ∧
        gone.flatten = [brief] := by
  intro before after
  have hclears : before.Clears "" := clears_iff.2 (by decide)
  have hanswers : ∀ b ∈ [brief], b.DiscardAnswers "" := by
    intro b hmem text hpanics
    rw [List.mem_singleton.1 hmem, Condition.discardPanicsWith_iff] at hpanics
    cases hpanics
  have hpanics : held.DiscardPanicsWith "" "no phase" := Condition.discardPanicsWith_iff.2 rfl
  have haccess : ∀ request ∈ phases, request.isAccess = true := by decide
  obtain ⟨hwrite, -, -, hsession⟩ := interrupted_accesses_lose_no_condition (V := String)
  obtain ⟨hstate, ho⟩ := (hwrite before "").of_panic hclears (rfl : _ = [brief] ++ held :: [held])
    hanswers hpanics
  have hretires : brief.Retires "" := by decide
  rw [List.filter_cons_of_neg (by simp [hretires]), List.filter_nil, List.nil_append] at hstate
  obtain ⟨modal, gone, hlast, hgone, hperm⟩ :=
    hsession .panic "idle" [brief, held, held] phases haccess
  have hphases : lastState (some (Modal.new "idle" [brief, held, held]))
      ((turns (machine.step .panic) (some (Modal.new "idle" [brief, held, held])) phases).map
        Turn.report) = some after := rfl
  obtain rfl : after = modal := Option.some.inj (hphases.symm.trans hlast)
  refine ⟨hclears, hanswers, hpanics, hstate, ho, haccess, gone, hgone, ?_⟩
  have hsorted : List.Perm ([brief] ++ [held, held, held]) ([held, held, held] ++ [brief]) :=
    List.perm_append_comm
  exact List.perm_singleton.1 ((List.perm_append_left_iff _).1 (hperm.trans hsorted))

end RuntimeContracts.Modal

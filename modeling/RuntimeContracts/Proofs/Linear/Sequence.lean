import RuntimeContracts.Linear.Session
import RuntimeContracts.Proofs.Predicate.Verdict
import RuntimeContracts.Proofs.Run.Stopping
import RuntimeContracts.Proofs.Session.Answered
import RuntimeContracts.Proofs.Session.Erasure

/-!
# Sequences taken in order

A linear value takes its predicates from the front of the sequence that it was made with, one for
each accepted write, and its count is the place in that sequence of the predicate that comes next.
The events of committed steps show these places one after the other.
-/

namespace RuntimeContracts.Linear

variable {V : Type}

structure Follows (strictness : Strictness) (sequence : List (Predicate V)) (linear : Linear V) :
    Prop where
  strictness_eq : linear.strictness = strictness
  consumed_add : linear.consumed + linear.remaining.length = sequence.length
  remaining_eq : linear.remaining = sequence.drop linear.consumed

variable {strictness : Strictness} {sequence : List (Predicate V)} {linear : Linear V}

theorem follows_new (v : V) (strictness : Strictness) (sequence : List (Predicate V)) :
    (new v strictness sequence).Follows strictness sequence where
  strictness_eq := rfl
  consumed_add := Nat.zero_add _
  remaining_eq := rfl

/-- The predicate that comes next is the one at the count. -/
theorem Follows.getElem?_consumed (h : linear.Follows strictness sequence) {head : Predicate V}
    {rest : List (Predicate V)} (hqueue : linear.remaining = head :: rest) :
    sequence[linear.consumed]? = some head ∧ rest = sequence.drop (linear.consumed + 1) := by
  have hdrop : sequence.drop linear.consumed = head :: rest := h.remaining_eq.symm.trans hqueue
  constructor
  · have hhead := congrArg (·[0]?) hdrop
    simpa using hhead
  · have htail := congrArg (List.drop 1) hdrop
    simpa [Nat.add_comm] using htail.symm

def advance (linear : Linear V) (v : V) (rest : List (Predicate V)) : Linear V :=
  { linear with value := v, remaining := rest, consumed := linear.consumed + 1 }

theorem Follows.advance (h : linear.Follows strictness sequence) {head : Predicate V}
    {rest : List (Predicate V)} (hqueue : linear.remaining = head :: rest) (v : V) :
    (linear.advance v rest).Follows strictness sequence where
  strictness_eq := h.strictness_eq
  consumed_add := by
    have hadd := h.consumed_add
    rw [hqueue, List.length_cons] at hadd
    change linear.consumed + 1 + rest.length = sequence.length
    omega
  remaining_eq := (h.getElem?_consumed hqueue).2

theorem Follows.setValue (h : linear.Follows strictness sequence) (v : V) :
    Follows strictness sequence { linear with value := v } :=
  ⟨h.strictness_eq, h.consumed_add, h.remaining_eq⟩

variable [Describe V]

inductive WriteEnd (linear : Linear V) (v : V) : Run Violation (Linear V) → Prop where
  | advanced {head : Predicate V} {rest : List (Predicate V)}
      (hqueue : linear.remaining = head :: rest) (hholds : head.Holds v) :
      WriteEnd linear v
        ⟨head.tests v ++ [.reported (.stepCommitted linear.consumed (describe v))],
          .returned (linear.advance v rest)⟩
  | refused {head : Predicate V} {rest : List (Predicate V)}
      (hqueue : linear.remaining = head :: rest) (hfails : head.Fails v) :
      WriteEnd linear v ⟨head.tests v,
        .refused (.sequenceStepUnsatisfied linear.consumed head.name (describe v))⟩
  | interrupted {head : Predicate V} {rest : List (Predicate V)} {text : String}
      (hqueue : linear.remaining = head :: rest) (hpanics : head.PanicsWith v text) :
      WriteEnd linear v ⟨head.tests v, .panicked text⟩
  | frozen (hqueue : linear.remaining = []) (hexact : linear.strictness = .exact) :
      WriteEnd linear v ⟨[], .refused (.sequenceExhausted (describe v))⟩
  | unchecked (hqueue : linear.remaining = []) (hinexact : linear.strictness = .inexact) :
      WriteEnd linear v ⟨[], .returned { linear with value := v }⟩

theorem write_ends (linear : Linear V) (v : V) : WriteEnd linear v (linear.write v) := by
  obtain ⟨value, remaining, consumed, strictness⟩ := linear
  cases remaining with
  | nil =>
    cases strictness with
    | exact => exact .frozen rfl rfl
    | inexact => exact .unchecked rfl rfl
  | cons head rest =>
    unfold write
    dsimp only
    rw [Predicate.eval_eq, Run.after_bind]
    cases hverdict : head.verdict v with
    | ok holds =>
      cases holds with
      | true => exact .advanced rfl (Predicate.holds_iff.2 hverdict)
      | false =>
        have hend : WriteEnd ⟨value, head :: rest, consumed, strictness⟩ v _ :=
          .refused rfl (Predicate.fails_iff.2 hverdict)
        simpa [Run.after] using hend
    | error text =>
      have hend : WriteEnd ⟨value, head :: rest, consumed, strictness⟩ v _ :=
        .interrupted rfl (Predicate.panicsWith_iff.2 hverdict)
      simpa [Run.after] using hend

theorem attempt_write_some (form : Form) (v : V) (linear : Linear V) :
    attempt (.write form v) (some linear) =
      ((linear.write v).outcome.value?.or (some linear),
        ⟨(linear.write v).trace, (linear.write v).outcome.map fun _ => some .done⟩) := by
  rw [attempt, withObject_lift_set]

/-! ## The positions that the log shows -/

def position? : Line → Option String
  | .event event =>
    if event.message = "sequence step committed" then event.fields.lookup "position" else none
  | .text _ => none

def shownPositions (watch : Watch) (trace : Trace) : List String :=
  (trace.shown watch).filterMap position?

theorem shownPositions_append (watch : Watch) (first second : Trace) :
    shownPositions watch (first ++ second) =
      shownPositions watch first ++ shownPositions watch second := by
  simp [shownPositions]

omit [Describe V] in
theorem shownPositions_tests (watch : Watch) (v : V) (p : Predicate V) :
    shownPositions watch (p.tests v) = [] := by
  refine List.filterMap_eq_nil_iff.2 fun line hline => ?_
  obtain ⟨entry, hentry, rfl⟩ := List.mem_map.1 hline
  obtain ⟨label, rfl⟩ := Predicate.mem_tests (List.mem_filter.1 hentry).1
  rfl

theorem shownPositions_committed {watch : Watch} (hevents : watch.events = true) (position : Nat)
    (value : String) :
    shownPositions watch [.reported (.stepCommitted position value)] = [toString position] := by
  have hshown : Trace.shown watch [.reported (.stepCommitted position value)] =
      [.event (.stepCommitted position value)] := by
    simp [Trace.shown, Entry.isShown, hevents, Entry.line]
  have hmessage : (Event.stepCommitted position value).message = "sequence step committed" := rfl
  have hposition : position? (.event (.stepCommitted position value)) =
      some (toString position) := by
    rw [position?, if_pos hmessage]
    exact List.lookup_cons_self
  rw [shownPositions, hshown, List.filterMap_cons_some hposition, List.filterMap_nil]

theorem position?_diagnosis {ε : Type} [Diagnosis ε] (e : ε) :
    position? (.event (Diagnosis.event e)) = none := by
  have hmessage : (Diagnosis.event e).message ≠ "sequence step committed" :=
    Diagnosis.message_event_ne e (by decide)
  rw [position?, if_neg hmessage]

/-- Enforcing a violation commits no step. -/
theorem shownPositions_inForm {ε α : Type} [Diagnosis ε] (watch : Watch) (mode : FailureMode)
    (run : Run ε α) (form : Form) :
    shownPositions watch (run.inForm mode form).trace = shownPositions watch run.trace := by
  rcases run.trace_inForm mode form with htrace | ⟨e, htrace⟩
  · rw [htrace]
  · have hreport : shownPositions watch [.reported (Diagnosis.event e)] = [] := by
      cases hevents : watch.events with
      | false => simp [shownPositions, Trace.shown, Entry.isShown, hevents]
      | true =>
        simp [shownPositions, Trace.shown, Entry.isShown, hevents, Entry.line,
          position?_diagnosis]
    rw [htrace, shownPositions_append, hreport, List.append_nil]

def positionsBetween (first last : Nat) : List String :=
  (List.range' first (last - first)).map toString

@[simp] theorem positionsBetween_self (first : Nat) : positionsBetween first first = [] := by
  simp [positionsBetween]

theorem positionsBetween_succ (first : Nat) :
    positionsBetween first (first + 1) = [toString first] := by
  simp [positionsBetween]

theorem positionsBetween_append {first middle last : Nat} (hfirst : first ≤ middle)
    (hlast : middle ≤ last) :
    positionsBetween first middle ++ positionsBetween middle last =
      positionsBetween first last := by
  have hmiddle : middle = first + (middle - first) := by omega
  have hcount : middle - first + (last - middle) = last - first := by omega
  have hrange : List.range' first (middle - first) ++ List.range' middle (last - middle) =
      List.range' first (last - first) := by
    rw [← hcount, ← List.range'_append_1, ← hmiddle]
  rw [positionsBetween, positionsBetween, ← List.map_append, hrange, positionsBetween]

/-- A write leaves a value that follows the sequence with one that follows it, and moves the count
on by the positions that it shows. -/
theorem Follows.attempt_write (h : linear.Follows strictness sequence) (form : Form) (v : V) :
    ∃ after, (attempt (.write form v) (some linear)).1 = some after ∧
      after.Follows strictness sequence ∧ linear.consumed ≤ after.consumed ∧
      ∀ watch : Watch, watch.events = true →
        shownPositions watch (attempt (.write form v) (some linear)).2.trace =
          positionsBetween linear.consumed after.consumed := by
  rw [attempt_write_some]
  have hends := write_ends linear v
  generalize linear.write v = run at hends
  cases hends with
  | @advanced head rest hqueue hholds =>
    refine ⟨_, rfl, h.advance hqueue v, Nat.le_succ _, fun watch hevents => ?_⟩
    change shownPositions watch (head.tests v ++ _) =
      positionsBetween linear.consumed (linear.consumed + 1)
    rw [shownPositions_append, shownPositions_tests, shownPositions_committed hevents,
      positionsBetween_succ, List.nil_append]
  | refused hqueue hfails | interrupted hqueue hpanics =>
    refine ⟨_, rfl, h, Nat.le_refl _, fun watch _ => ?_⟩
    rw [positionsBetween_self]
    exact shownPositions_tests watch v _
  | frozen hqueue hexact =>
    exact ⟨_, rfl, h, Nat.le_refl _, fun watch _ => (positionsBetween_self _).symm⟩
  | unchecked hqueue hinexact =>
    exact ⟨_, rfl, h.setValue v, Nat.le_refl _, fun watch _ => (positionsBetween_self _).symm⟩

/-! ## Runs of writes -/

def writeRequests (writes : List (Form × V)) : List (Request V) :=
  writes.map fun write => .write write.1 write.2

theorem Follows.finalState (h : linear.Follows strictness sequence) (mode : FailureMode)
    (writes : List (Form × V)) :
    ∃ last, Session.finalState (machine.step mode) (some linear) (writeRequests writes) =
      some last ∧ last.Follows strictness sequence := by
  induction writes generalizing linear with
  | nil => exact ⟨linear, rfl, h⟩
  | cons write rest ih =>
    obtain ⟨after, hafter, hfollows, _⟩ := h.attempt_write write.1 write.2
    have hstep : (machine.step mode (.write write.1 write.2) (some linear)).1 = some after := hafter
    rw [writeRequests, List.map_cons, Session.finalState_cons, hstep]
    exact ih hfollows

/-- The positions that a session shows are those from the first count to the last. -/
theorem Follows.positions_session (h : linear.Follows strictness sequence) {watch : Watch}
    (hevents : watch.events = true) (mode : FailureMode) (writes : List (Form × V)) :
    let reports := machine.session mode (some linear) (writeRequests writes)
    ∃ last, Session.lastState (some linear) reports = some last ∧
      linear.consumed ≤ last.consumed ∧
      shownPositions watch (reports.flatMap fun report => report.run.trace) =
        positionsBetween linear.consumed last.consumed := by
  induction writes generalizing linear with
  | nil => exact ⟨linear, rfl, Nat.le_refl _, (positionsBetween_self _).symm⟩
  | cons write rest ih =>
    obtain ⟨after, hafter, hfollows, hle, hpositions⟩ := h.attempt_write write.1 write.2
    have hstate : (machine.step mode (.write write.1 write.2) (some linear)).1 = some after :=
      hafter
    have htrace : shownPositions watch
        (machine.step mode (.write write.1 write.2) (some linear)).2.trace =
          positionsBetween linear.consumed after.consumed :=
      (shownPositions_inForm watch mode _ _).trans (hpositions watch hevents)
    intro reports
    have hreports : reports = ⟨(machine.step mode (.write write.1 write.2) (some linear)).2,
        some after⟩ :: if (machine.step mode (.write write.1 write.2)
          (some linear)).2.outcome.isAborted then [] else
            machine.session mode (some after) (writeRequests rest) := by
      rw [← hstate]
      rfl
    rw [hreports, List.flatMap_cons, shownPositions_append, htrace]
    split
    · exact ⟨after, rfl, hle, List.append_nil _⟩
    · obtain ⟨last, hlast, hafterLe, hrest⟩ := ih hfollows
      refine ⟨last, hlast, Nat.le_trans hle hafterLe, ?_⟩
      rw [hrest, positionsBetween_append hle hafterLe]

/-- While the queue lasts, its head decides on a write. -/
theorem next_write {head : Predicate V} {rest : List (Predicate V)}
    (hqueue : linear.remaining = head :: rest) (mode : FailureMode) (form : Form) (v : V) :
    let step := machine.step mode (.write form v) (some linear)
    (step.2.outcome = .returned (some .done) ↔ head.Holds v) ∧
      (head.Holds v → step.1 = some (linear.advance v rest)) ∧
      (¬ head.Holds v → step.1 = some linear) ∧
      ∀ e, (machine.attempt (.write form v) (some linear)).2.outcome = .refused e ↔
        head.Fails v ∧ e = .sequenceStepUnsatisfied linear.consumed head.name (describe v) := by
  intro step
  have hstate : step.1 = (attempt (.write form v) (some linear)).1 := rfl
  rw [machine.step_returned_iff, hstate]
  change ((attempt (.write form v) (some linear)).2.outcome = _ ↔ _) ∧ _ ∧ _ ∧
    ∀ e, (attempt (.write form v) (some linear)).2.outcome = _ ↔ _
  rw [attempt_write_some]
  have hends := write_ends linear v
  generalize linear.write v = run at hends
  cases hends with
  | advanced hq hholds =>
    obtain ⟨rfl, rfl⟩ := List.cons.inj (hqueue.symm.trans hq)
    refine ⟨iff_of_true rfl hholds, fun _ => rfl, fun hnot => absurd hholds hnot, fun e => ?_⟩
    exact iff_of_false nofun fun he => Predicate.not_holds_of_fails he.1 hholds
  | refused hq hfails =>
    obtain ⟨rfl, rfl⟩ := List.cons.inj (hqueue.symm.trans hq)
    have hnot := Predicate.not_holds_of_fails hfails
    refine ⟨iff_of_false nofun hnot, fun hholds => absurd hholds hnot, fun _ => rfl, fun e => ?_⟩
    constructor
    · intro he
      cases he
      exact ⟨hfails, rfl⟩
    · rintro ⟨_, rfl⟩
      rfl
  | interrupted hq hpanics =>
    obtain ⟨rfl, rfl⟩ := List.cons.inj (hqueue.symm.trans hq)
    have hnot := Predicate.not_holds_of_panicsWith hpanics
    refine ⟨iff_of_false nofun hnot, fun hholds => absurd hholds hnot, fun _ => rfl, fun e => ?_⟩
    exact iff_of_false nofun fun he => Predicate.not_fails_of_panicsWith hpanics he.1
  | frozen hq hexact =>
    rw [hqueue] at hq
    cases hq
  | unchecked hq hinexact =>
    rw [hqueue] at hq
    cases hq

/-- Past the end of the sequence an exact value refuses a write, and an inexact one takes it
without evaluating anything. -/
theorem write_past_end (hqueue : linear.remaining = []) (mode : FailureMode) (form : Form) (v : V) :
    (linear.strictness = .exact → machine.attempt (.write form v) (some linear) =
        (some linear, Run.refuse (.sequenceExhausted (describe v)))) ∧
      (linear.strictness = .inexact → machine.step mode (.write form v) (some linear) =
        (some { linear with value := v }, pure (some .done))) := by
  have hattempt := attempt_write_some form v linear
  have hends := write_ends linear v
  generalize linear.write v = run at hattempt hends
  cases hends with
  | frozen hq hexact =>
    rw [hexact]
    exact ⟨fun _ => hattempt, nofun⟩
  | unchecked hq hinexact =>
    rw [hinexact]
    rw [hinexact] at hattempt
    exact ⟨nofun, fun _ => machine.step_of_returned mode hattempt⟩
  | advanced hq | refused hq | interrupted hq =>
    rw [hqueue] at hq
    cases hq

/-- What writes make of a value past the end of its sequence: an exact one stays as it is, and an
inexact one holds the last value written. -/
def pastEnd (linear : Linear V) (values : List V) : Linear V :=
  match linear.strictness with
  | .exact => linear
  | .inexact => { linear with value := values.getLastD linear.value }

theorem finalState_past_end (hqueue : linear.remaining = []) (mode : FailureMode)
    (writes : List (Form × V)) :
    Session.finalState (machine.step mode) (some linear) (writeRequests writes) =
      some (linear.pastEnd (writes.map Prod.snd)) := by
  induction writes generalizing linear with
  | nil =>
    obtain ⟨value, remaining, consumed, strictness⟩ := linear
    cases strictness <;> rfl
  | cons write rest ih =>
    obtain ⟨hexact, hinexact⟩ := write_past_end hqueue mode write.1 write.2
    rw [writeRequests, List.map_cons, Session.finalState_cons]
    cases hstrict : linear.strictness with
    | exact =>
      have hstep : (machine.step mode (.write write.1 write.2) (some linear)).1 = some linear :=
        congrArg Prod.fst (hexact hstrict)
      rw [hstep]
      have hrest := ih hqueue
      rw [pastEnd, hstrict] at hrest ⊢
      exact hrest
    | inexact =>
      have hrest := @ih { linear with value := write.2 } hqueue
      rw [hinexact hstrict]
      rw [pastEnd, hstrict] at hrest ⊢
      rw [List.map_cons, List.getLastD_cons]
      exact hrest

/-! ## Openings -/

theorem enter_cons (v : V) (strictness : Strictness) (head : Predicate V)
    (rest : List (Predicate V)) : enter v strictness (head :: rest) = ⟨head.tests v,
      match head.verdict v with
      | .ok true => .returned ⟨v, rest, 1, strictness⟩
      | .ok false => .refused (.construction .linear head.name (describe v))
      | .error text => .panicked text⟩ := by
  rw [enter, Predicate.eval_eq, Run.after_bind]
  rcases head.verdict v with text | answer
  · ext1 <;> simp
  · cases answer <;> ext1 <;> simp

inductive Opening where
  | unchecked
  | entered (form : Form)

namespace Opening

def request (v : V) (strictness : Strictness) (sequence : List (Predicate V)) : Opening → Request V
  | .unchecked => .new v strictness sequence
  | .entered form => .enter form v strictness sequence

def consumes (sequence : List (Predicate V)) : Opening → Nat
  | .unchecked => 0
  | .entered _ => match sequence with
    | [] => 0
    | _ :: _ => 1

theorem attempt_enter (form : Form) (v : V) (strictness : Strictness)
    (sequence : List (Predicate V)) :
    attempt (.enter form v strictness sequence) none =
      ((enter v strictness sequence).outcome.value?, ⟨(enter v strictness sequence).trace,
        (enter v strictness sequence).outcome.map fun _ => some .done⟩) := by
  have hact : attempt (.enter form v strictness sequence) none =
      (Act.set none >>= fun _ => Act.lift (enter v strictness sequence) >>= fun linear =>
        Act.set (some linear) >>= fun _ => pure (some Reply.done)) none := rfl
  rw [hact, Act.set_bind, Act.lift_bind_set, Option.or_none]

/-- An opening that succeeds leaves a value that follows the sequence, and commits no step. -/
theorem opened {opening : Opening} {v : V} {strictness : Strictness}
    {sequence : List (Predicate V)}
    (h : (attempt (opening.request v strictness sequence) none).2.outcome =
      .returned (some .done)) :
    ∃ linear, (attempt (opening.request v strictness sequence) none).1 = some linear ∧
      linear.Follows strictness sequence ∧ linear.value = v ∧
      linear.consumed = opening.consumes sequence ∧
      ∀ watch, shownPositions watch
        (attempt (opening.request v strictness sequence) none).2.trace = [] := by
  cases opening with
  | unchecked => exact ⟨_, rfl, follows_new v strictness sequence, rfl, rfl, fun _ => rfl⟩
  | entered form =>
    rw [request, attempt_enter] at h ⊢
    cases sequence with
    | nil => exact ⟨_, rfl, follows_new v strictness [], rfl, rfl, fun _ => rfl⟩
    | cons head rest =>
      rw [enter_cons] at h ⊢
      cases hverdict : head.verdict v with
      | error text =>
        rw [hverdict] at h
        cases h
      | ok holds =>
        cases holds with
        | false =>
          rw [hverdict] at h
          cases h
        | true =>
          exact ⟨⟨v, rest, 1, strictness⟩, rfl, ⟨rfl, Nat.add_comm _ _, rfl⟩, rfl, rfl,
            fun watch => shownPositions_tests watch v head⟩

end Opening

/-- What a linear value does that was opened on a sequence: while the queue lasts, the predicate at
the count decides on a write, and past the end an exact value stays as it is and an inexact one
takes every value untested. -/
structure TakesInOrder (mode : FailureMode) (strictness : Strictness)
    (sequence : List (Predicate V)) (linear : Linear V) : Prop
    extends Follows strictness sequence linear where
  next_write : ∀ head rest, linear.remaining = head :: rest →
    sequence[linear.consumed]? = some head ∧ ∀ form v,
      let step := machine.step mode (.write form v) (some linear)
      (step.2.outcome = .returned (some .done) ↔ head.Holds v) ∧
        (head.Holds v → step.1 = some ⟨v, rest, linear.consumed + 1, strictness⟩) ∧
        (¬ head.Holds v → step.1 = some linear) ∧
        ∀ e, (machine.attempt (.write form v) (some linear)).2.outcome = .refused e ↔
          head.Fails v ∧ e = .sequenceStepUnsatisfied linear.consumed head.name (describe v)
  refuses_past_end : linear.remaining = [] → strictness = .exact → ∀ form v,
    machine.attempt (.write form v) (some linear) =
      (some linear, Run.refuse (.sequenceExhausted (describe v)))
  takes_past_end : linear.remaining = [] → strictness = .inexact → ∀ form v,
    machine.step mode (.write form v) (some linear) =
      (some { linear with value := v }, pure (some .done))
  stays_past_end : linear.remaining = [] → ∀ later : List (Form × V),
    Session.finalState (machine.step mode) (some linear) (writeRequests later) =
      some (linear.pastEnd (later.map Prod.snd))

theorem Follows.takesInOrder (h : linear.Follows strictness sequence) (mode : FailureMode) :
    linear.TakesInOrder mode strictness sequence where
  toFollows := h
  next_write := by
    intro head rest hqueue
    refine ⟨(h.getElem?_consumed hqueue).1, fun form v => ?_⟩
    rw [← h.strictness_eq]
    exact Linear.next_write hqueue mode form v
  refuses_past_end := fun hqueue hexact form v =>
    (write_past_end hqueue mode form v).1 (h.strictness_eq.trans hexact)
  takes_past_end := fun hqueue hinexact form v =>
    (write_past_end hqueue mode form v).2 (h.strictness_eq.trans hinexact)
  stays_past_end := fun hqueue later => finalState_past_end hqueue mode later

/-- A linear value that was opened on a sequence takes its predicates in order, whatever is written
to it, and the log shows the places that writes commit one after the other, from the first that the
opening has left. -/
theorem run_takes_sequence_in_order (mode : FailureMode) (opening : Opening) (v₀ : V)
    (strictness : Strictness) (sequence : List (Predicate V))
    (hopened : (machine.step mode (opening.request v₀ strictness sequence) none).2.outcome =
      .returned (some .done)) (writes : List (Form × V)) :
    let requests := opening.request v₀ strictness sequence :: writeRequests writes
    let reports := machine.session mode none requests
    (∃ linear, Session.finalState (machine.step mode) none requests = some linear ∧
        linear.TakesInOrder mode strictness sequence) ∧
      ∀ watch : Watch, watch.events = true → ∃ last, Session.lastState none reports = some last ∧
        opening.consumes sequence ≤ last.consumed ∧
        shownPositions watch (reports.flatMap fun report => report.run.trace) =
          positionsBetween (opening.consumes sequence) last.consumed := by
  intro requests reports
  have hattempt := (machine.step_returned_iff mode _ none (some .done)).1 hopened
  obtain ⟨first, hfirst, hfollows, _, hconsumed, hsilent⟩ := Opening.opened hattempt
  have hstate : (machine.step mode (opening.request v₀ strictness sequence) none).1 = some first :=
    hfirst
  constructor
  · obtain ⟨last, hlast, hfollows⟩ := hfollows.finalState mode writes
    refine ⟨last, ?_, hfollows.takesInOrder mode⟩
    rw [Session.finalState_cons, hstate]
    exact hlast
  · intro watch hevents
    obtain ⟨last, hlast, hle, hpositions⟩ := hfollows.positions_session hevents mode writes
    have hreports : reports =
        ⟨(machine.step mode (opening.request v₀ strictness sequence) none).2, some first⟩ ::
          machine.session mode (some first) (writeRequests writes) := by
      rw [← hstate]
      change Session.reports (machine.step mode) none requests = _
      rw [Session.reports_cons, hopened]
      rfl
    have hopening : shownPositions watch
        (machine.step mode (opening.request v₀ strictness sequence) none).2.trace = [] :=
      (shownPositions_inForm watch mode _ _).trans (hsilent watch)
    rw [hreports, ← hconsumed]
    refine ⟨last, hlast, hle, ?_⟩
    rw [List.flatMap_cons, shownPositions_append, hopening, List.nil_append, hpositions]

/-- A value that enters through the first of two predicates, is refused once by the second, and is
past the end after the next write. -/
theorem entered_word_reaches_end :
    let short := Predicate.named "short" fun word : String => .ok (word.length < 3)
    let long := Predicate.named "long" fun word : String => .ok (3 ≤ word.length)
    let opening := Opening.entered .failFast
    let writes := [(Form.failFast, "no"), (.checked, "maybe"), (.checked, "late")]
    let requests := opening.request "so" .exact [short, long] :: writeRequests writes
    (machine.step .panic (opening.request "so" .exact [short, long]) none).2.outcome =
        .returned (some .done) ∧
      (∃ linear, Session.finalState (machine.step .panic) none requests = some linear ∧
        linear.TakesInOrder .panic .exact [short, long]) ∧
      Session.finalState (machine.step .panic) none requests = some ⟨"maybe", [], 2, .exact⟩ := by
  intro short long opening writes requests
  have hopened : (machine.step .panic (opening.request "so" .exact [short, long]) none).2.outcome =
      .returned (some .done) := rfl
  refine ⟨hopened, ?_, rfl⟩
  exact (run_takes_sequence_in_order .panic opening "so" .exact [short, long] hopened writes).1

end RuntimeContracts.Linear

import RuntimeContracts.Constrained.Session
import RuntimeContracts.Proofs.Predicate.Verdict
import RuntimeContracts.Proofs.Run.Stopping
import RuntimeContracts.Proofs.Session.Answered

/-!
# What a constrained value was checked against

A constrained value satisfies the constraints that were registered when it was committed, by its
creation or by an accepted write. Those that were added since then stand behind them in the list,
and only the next write is checked against them.
-/

namespace RuntimeContracts.Constrained

variable {V : Type}

abbrev Answer (V : Type) := Request V × Option (Reply V)

def committed? : Answer V → Option V
  | (.write _ v, _) => some v
  | _ => none

def addition? : Answer V → Option (Predicate V)
  | (.constrain p, _) => some p
  | _ => none

def committed (done : List (Answer V)) : List V := done.filterMap committed?

def additions (done : List (Answer V)) : List (Predicate V) := done.filterMap addition?

/-- The requests that work on the value that is there, and leave one there. -/
def Request.isAccess : Request V → Bool
  | .create .. | .takeValue => false
  | .write .. | .read | .constrain _ | .showDebug _ => true

def writeRequests (writes : List (Form × V)) : List (Request V) :=
  writes.map fun write => .write write.1 write.2

/-- The value at the end of what was answered since its creation, up to its last commit and since
then: it holds the value committed last, and satisfies the constraints registered by then. -/
structure StandsAfter (value : V) (constraints : List (Predicate V)) (upTo since : List (Answer V))
    (guarded : Constrained V) : Prop where
  ends_in_commit : ∀ last ∈ upTo.getLast?, (committed? last).isSome
  no_commit_since : committed since = []
  value_eq : guarded.value = (committed upTo).getLastD value
  constraints_eq : guarded.constraints = (constraints ++ additions upTo) ++ additions since
  holds : ∀ p ∈ constraints ++ additions upTo, p.Holds guarded.value

variable {value : V} {constraints : List (Predicate V)} {upTo since : List (Answer V)}
  {guarded : Constrained V}

theorem standsAfter_start (h : ∀ p ∈ constraints, p.Holds value) :
    StandsAfter value constraints [] [] ⟨value, constraints⟩ where
  ends_in_commit := nofun
  no_commit_since := rfl
  value_eq := rfl
  constraints_eq := by simp [additions]
  holds := by simpa [additions] using h

/-- A write that all constraints accept makes the additions since the last commit part of what the
value was checked against. -/
theorem StandsAfter.commit (h : StandsAfter value constraints upTo since guarded) {v : V}
    (hall : ∀ p ∈ guarded.constraints, p.Holds v) (form : Form) (reply : Option (Reply V)) :
    StandsAfter value constraints (upTo ++ since ++ [(.write form v, reply)]) []
      { guarded with value := v } := by
  have hregistered : guarded.constraints =
      constraints ++ additions (upTo ++ since ++ [(.write form v, reply)]) := by
    rw [h.constraints_eq]
    simp [additions, addition?]
  refine ⟨?_, rfl, ?_, ?_, ?_⟩
  · intro last hlast
    rw [List.getLast?_append, List.getLast?_singleton] at hlast
    obtain rfl : (.write form v, reply) = last := by simpa using hlast
    rfl
  · simp [committed, committed?]
  · rw [← hregistered]
    simp [additions]
  · rw [← hregistered]
    exact hall

theorem StandsAfter.constrain (h : StandsAfter value constraints upTo since guarded)
    (p : Predicate V) (reply : Option (Reply V)) :
    StandsAfter value constraints upTo (since ++ [(.constrain p, reply)])
      (guarded.constrain p) where
  ends_in_commit := h.ends_in_commit
  no_commit_since := by
    have hsince := h.no_commit_since
    simp only [committed] at hsince ⊢
    simp [hsince, committed?]
  value_eq := h.value_eq
  constraints_eq := by
    change guarded.constraints ++ [p] = _
    rw [h.constraints_eq]
    simp [additions, addition?]
  holds := h.holds

/-- Any other answer stands for nothing that the value shows. -/
theorem StandsAfter.idle (h : StandsAfter value constraints upTo since guarded) {answer : Answer V}
    (hcommitted : committed? answer = none) (haddition : addition? answer = none) :
    StandsAfter value constraints upTo (since ++ [answer]) guarded where
  ends_in_commit := h.ends_in_commit
  no_commit_since := by
    have hsince := h.no_commit_since
    simp only [committed] at hsince ⊢
    simp [hsince, hcommitted]
  value_eq := h.value_eq
  constraints_eq := by
    rw [h.constraints_eq]
    simp [additions, haddition]
  holds := h.holds

variable [Describe V]

inductive WriteEnd (guarded : Constrained V) (v : V) : Run Violation (Constrained V) → Prop where
  | committed (hall : ∀ p ∈ guarded.constraints, p.Holds v) :
      WriteEnd guarded v
        ⟨guarded.constraints.flatMap (Predicate.tests v) ++
            [.reported (.writeCommitted (describe v))],
          .returned { guarded with value := v }⟩
  | refused {earlier rest : List (Predicate V)} {p : Predicate V}
      (hsplit : guarded.constraints = earlier ++ p :: rest) (hearlier : ∀ q ∈ earlier, q.Holds v)
      (hfails : p.Fails v) :
      WriteEnd guarded v ⟨(earlier ++ [p]).flatMap (Predicate.tests v),
        .refused (.constraintUnsatisfied p.name (describe v))⟩
  | interrupted {earlier rest : List (Predicate V)} {p : Predicate V} {text : String}
      (hsplit : guarded.constraints = earlier ++ p :: rest) (hearlier : ∀ q ∈ earlier, q.Holds v)
      (hpanics : p.PanicsWith v text) :
      WriteEnd guarded v ⟨(earlier ++ [p]).flatMap (Predicate.tests v), .panicked text⟩

theorem write_ends (guarded : Constrained V) (v : V) : WriteEnd guarded v (guarded.write v) := by
  obtain ⟨trace, found, hsearched⟩ := Predicate.exists_searched v guarded.constraints
  rw [write, Predicate.firstFailing_eq_of_searched hsearched, Run.after_bind]
  generalize hconstraints : guarded.constraints = ps at hsearched
  cases hsearched with
  | allHold hall =>
    subst hconstraints
    exact .committed hall
  | fails hearlier hp =>
    have hend : WriteEnd guarded v _ := .refused hconstraints hearlier hp
    simpa [Run.refuse] using hend
  | panics hearlier hp =>
    have hend : WriteEnd guarded v _ := .interrupted hconstraints hearlier hp
    simpa [Run.panic] using hend

theorem attempt_write_some (form : Form) (v : V) (guarded : Constrained V) :
    attempt (.write form v) (some guarded) =
      ((guarded.write v).outcome.value?.or (some guarded),
        ⟨(guarded.write v).trace, (guarded.write v).outcome.map fun _ => some .done⟩) := by
  rw [attempt, withObject_lift_set]

/-- A creation returns only a value that satisfies all its constraints. -/
theorem create_returned {start : Constrained V}
    (h : (create value constraints).outcome = .returned start) :
    start = ⟨value, constraints⟩ ∧ ∀ p ∈ constraints, p.Holds value := by
  obtain ⟨trace, found, hsearched⟩ := Predicate.exists_searched value constraints
  rw [create, Predicate.firstFailing_eq_of_searched hsearched, Run.after_bind] at h
  cases hsearched with
  | allHold hall =>
    cases h
    exact ⟨rfl, hall⟩
  | fails hearlier hp => cases h
  | panics hearlier hp => cases h

/-- How an attempted write ends is decided by the first constraint that does not hold. -/
theorem attempt_write_ends (form : Form) (v : V) (guarded : Constrained V) :
    let write := attempt (.write form v) (some guarded)
    (write.2.outcome = .returned (some .done) ↔ ∀ p ∈ guarded.constraints, p.Holds v) ∧
      ((∀ p ∈ guarded.constraints, p.Holds v) → write.1 = some { guarded with value := v }) ∧
      (¬ (∀ p ∈ guarded.constraints, p.Holds v) → write.1 = some guarded) ∧
      ∀ e, write.2.outcome = .refused e ↔
        ∃ earlier p rest, guarded.constraints = earlier ++ p :: rest ∧
          (∀ q ∈ earlier, q.Holds v) ∧ p.Fails v ∧
            e = .constraintUnsatisfied p.name (describe v) := by
  intro write
  have hwrite : write = ((guarded.write v).outcome.value?.or (some guarded),
      ⟨(guarded.write v).trace, (guarded.write v).outcome.map fun _ => some .done⟩) :=
    attempt_write_some form v guarded
  have hends := write_ends guarded v
  generalize guarded.write v = run at hwrite hends
  rw [hwrite]
  cases hends with
  | committed hall =>
    refine ⟨iff_of_true rfl hall, fun _ => rfl, fun hnot => absurd hall hnot, fun e => ?_⟩
    refine iff_of_false nofun ?_
    rintro ⟨earlier, p, rest, hsplit, _, hfails, _⟩
    have hmem : p ∈ guarded.constraints := by simp [hsplit]
    exact Predicate.not_holds_of_fails hfails (hall p hmem)
  | @refused earlier rest p hsplit hearlier hfails =>
    have hmem : p ∈ guarded.constraints := by simp [hsplit]
    have hnot : ¬ ∀ p ∈ guarded.constraints, p.Holds v := fun hall =>
      Predicate.not_holds_of_fails hfails (hall p hmem)
    refine ⟨iff_of_false nofun hnot, fun hall => absurd hall hnot, fun _ => rfl, fun e => ?_⟩
    constructor
    · intro he
      cases he
      exact ⟨earlier, p, rest, hsplit, hearlier, hfails, rfl⟩
    · rintro ⟨earlier', p', rest', hsplit', hearlier', hfails', rfl⟩
      obtain ⟨-, rfl⟩ := first_unique (hsplit.symm.trans hsplit') hearlier hearlier'
        (Predicate.not_holds_of_fails hfails) (Predicate.not_holds_of_fails hfails')
      rfl
  | @interrupted earlier rest p text hsplit hearlier hpanics =>
    have hmem : p ∈ guarded.constraints := by simp [hsplit]
    have hnotHolds : ¬ p.Holds v := Predicate.not_holds_of_panicsWith hpanics
    have hnot : ¬ ∀ p ∈ guarded.constraints, p.Holds v := fun hall => hnotHolds (hall p hmem)
    refine ⟨iff_of_false nofun hnot, fun hall => absurd hall hnot, fun _ => rfl, fun e => ?_⟩
    refine iff_of_false nofun ?_
    rintro ⟨earlier', p', rest', hsplit', hearlier', hfails', _⟩
    obtain ⟨-, rfl⟩ := first_unique (hsplit.symm.trans hsplit') hearlier hearlier' hnotHolds
      (Predicate.not_holds_of_fails hfails')
    exact Predicate.not_fails_of_panicsWith hpanics hfails'

def Tracks (value : V) (constraints : List (Predicate V)) (done : List (Answer V))
    (guarded? : Option (Constrained V)) : Prop :=
  ∃ guarded upTo since, guarded? = some guarded ∧ done = upTo ++ since ∧
    StandsAfter value constraints upTo since guarded

theorem Tracks.step_returned {done : List (Answer V)} {guarded? : Option (Constrained V)}
    (h : Tracks value constraints done guarded?) {request : Request V}
    (haccess : request.isAccess = true) {answer : Option (Reply V)}
    (hanswer : (attempt request guarded?).2.outcome = .returned answer) :
    Tracks value constraints (done ++ [(request, answer)]) (attempt request guarded?).1 := by
  obtain ⟨guarded, upTo, since, rfl, rfl, hstands⟩ := h
  cases request with
  | create form v ps => cases haccess
  | takeValue => cases haccess
  | write form v =>
    obtain ⟨haccepted, hcommits, -, -⟩ := attempt_write_ends form v guarded
    have hdone : answer = some .done := by
      rw [attempt_write_some] at hanswer
      cases ho : (guarded.write v).outcome with
      | returned written =>
        rw [ho] at hanswer
        cases hanswer
        rfl
      | refused e | panicked text | aborted text =>
        rw [ho] at hanswer
        cases hanswer
    subst hdone
    have hall := haccepted.1 hanswer
    exact ⟨_, _, [], hcommits hall, (List.append_nil _).symm, hstands.commit hall form _⟩
  | constrain p =>
    exact ⟨_, _, _, rfl, List.append_assoc upTo since _, hstands.constrain p answer⟩
  | read => exact ⟨_, _, _, rfl, List.append_assoc upTo since _, hstands.idle rfl rfl⟩
  | showDebug pretty => exact ⟨_, _, _, rfl, List.append_assoc upTo since _, hstands.idle rfl rfl⟩

/-- What is not answered is a write that was refused or interrupted, and changes nothing. -/
theorem attempt_of_not_returned {guarded : Constrained V} {request : Request V}
    (haccess : request.isAccess = true)
    (hnone : ∀ answer, (attempt request (some guarded)).2.outcome ≠ .returned answer) :
    (attempt request (some guarded)).1 = some guarded := by
  cases request with
  | create form v ps => cases haccess
  | takeValue => cases haccess
  | write form v =>
    obtain ⟨haccepted, -, hkeeps, -⟩ := attempt_write_ends form v guarded
    exact hkeeps fun hall => hnone _ (haccepted.2 hall)
  | constrain p => exact absurd rfl (hnone _)
  | read => rfl
  | showDebug pretty => rfl

theorem tracks_run (mode : FailureMode) {start : Constrained V}
    (hstart : (create value constraints).outcome = .returned start) {requests : List (Request V)}
    (haccess : ∀ request ∈ requests, request.isAccess = true) :
    Tracks value constraints (Session.answered (machine.step mode) (some start) requests)
      (Session.finalState (machine.step mode) (some start) requests) := by
  obtain ⟨rfl, hholds⟩ := create_returned hstart
  have hfirst : Tracks value constraints [] (some ⟨value, constraints⟩) :=
    ⟨_, [], [], rfl, rfl, standsAfter_start hholds⟩
  refine Session.answered_induction_of_forall (motive := Tracks value constraints) ?_ ?_ hfirst
    haccess
  · intro done guarded? request answer hrequest h hanswer
    rw [machine.step_returned_iff] at hanswer
    exact h.step_returned hrequest hanswer
  · intro done guarded? request hrequest h hnone
    obtain ⟨guarded, upTo, since, rfl, hdone, hstands⟩ := h
    have hkeeps : (machine.step mode request (some guarded)).1 = some guarded :=
      attempt_of_not_returned hrequest fun answer hanswer =>
        hnone answer ((machine.step_returned_iff mode request _ answer).2 hanswer)
    rw [hkeeps]
    exact ⟨guarded, upTo, since, rfl, hdone, hstands⟩

/-- After any accesses to a constrained value, in any forms and however they end, its constraints
are those that were registered at its last commit, which all hold on it, and behind them those that
were added since then. The next write is accepted exactly if the constraints of both parts hold on
its value, and is then the last commit; it is refused with the first one that fails. -/
theorem constraints_hold_since_last_commit (mode : FailureMode) {start : Constrained V}
    (hstart : (create value constraints).outcome = .returned start) {requests : List (Request V)}
    (haccess : ∀ request ∈ requests, request.isAccess = true) :
    ∃ guarded upTo since,
      Session.finalState (machine.step mode) (some start) requests = some guarded ∧
      Session.answered (machine.step mode) (some start) requests = upTo ++ since ∧
      StandsAfter value constraints upTo since guarded ∧
      ∀ form v,
        let write := machine.step mode (.write form v) (some guarded)
        (write.2.outcome = .returned (some .done) ↔ ∀ p ∈ guarded.constraints, p.Holds v) ∧
        (write.2.outcome = .returned (some .done) →
          write.1 = some { guarded with value := v } ∧
            StandsAfter value constraints (upTo ++ since ++ [(.write form v, some .done)]) []
              { guarded with value := v }) ∧
        (write.2.outcome ≠ .returned (some .done) → write.1 = some guarded) ∧
        ∀ e, (machine.attempt (.write form v) (some guarded)).2.outcome = .refused e ↔
          ∃ earlier p rest, guarded.constraints = earlier ++ p :: rest ∧
            (∀ q ∈ earlier, q.Holds v) ∧ p.Fails v ∧
              e = .constraintUnsatisfied p.name (describe v) := by
  obtain ⟨guarded, upTo, since, hfinal, hdone, hstands⟩ := tracks_run mode hstart haccess
  refine ⟨guarded, upTo, since, hfinal, hdone, hstands, fun form v => ?_⟩
  obtain ⟨haccepted, hcommits, hkeeps, hrefused⟩ := attempt_write_ends form v guarded
  intro write
  have hiff : write.2.outcome = .returned (some .done) ↔ ∀ p ∈ guarded.constraints, p.Holds v :=
    (machine.step_returned_iff mode _ _ _).trans haccepted
  refine ⟨hiff, fun hwrite => ?_, fun hwrite => hkeeps (mt hiff.2 hwrite), hrefused⟩
  have hall := hiff.1 hwrite
  exact ⟨hcommits hall, hstands.commit hall form _⟩

def short : Predicate String := .named "short" fun word => .ok (word.length ≤ 4)

def loud : Predicate String :=
  .named "loud" fun word => if word = "" then .error "no word" else .ok (word == "STOP")

def signals : List (Request String) :=
  [.write .checked "go", .constrain loud, .write .failFast "walk", .write .checked "",
    .showDebug true]

/-- The constraint that was added last fails on the stored value, so that the same value cannot be
written again. -/
theorem added_constraint_fails_on_stored_signal :
    let final : Constrained String := ⟨"go", [short, loud]⟩
    (create "stop" [short]).outcome = .returned ⟨"stop", [short]⟩ ∧
      (∀ request ∈ signals, request.isAccess = true) ∧
      Session.finalState (machine.step .panic) (some ⟨"stop", [short]⟩) signals = some final ∧
      (∃ upTo since, StandsAfter "stop" [short] upTo since final) ∧
      (machine.step .panic (.write .checked "go") (some final)).2.outcome ≠
        .returned (some .done) := by
  intro final
  have hstart : (create "stop" [short]).outcome = .returned ⟨"stop", [short]⟩ := rfl
  have haccess : ∀ request ∈ signals, request.isAccess = true := by decide
  have hsignals : Session.finalState (machine.step .panic) (some ⟨"stop", [short]⟩) signals =
      some final := rfl
  obtain ⟨guarded, upTo, since, hfinal, -, hstands, hnext⟩ :=
    constraints_hold_since_last_commit .panic hstart haccess
  obtain rfl : final = guarded := Option.some.inj (hsignals.symm.trans hfinal)
  refine ⟨hstart, haccess, hsignals, ⟨upTo, since, hstands⟩, fun hwrite => ?_⟩
  have hall := (hnext .checked "go").1.1 hwrite
  have hloud : ¬ loud.Holds "go" := by decide +kernel
  exact hloud (hall loud (by simp [final]))

end RuntimeContracts.Constrained

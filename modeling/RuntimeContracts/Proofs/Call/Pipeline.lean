import RuntimeContracts.Call.Contract
import RuntimeContracts.Proofs.Predicate.Verdict

/-!
# The stages of a contracted call

`Works` lists the ways out of a call before its after-hooks run, each with everything that happened
up to there; `Performs` adds the after-hooks, which run once on every one of them. Unless an
after-hook panics while another panic is on its way, a call performs exactly one such sequence.
-/

namespace RuntimeContracts

namespace Entry

def isAfterHook : Entry → Bool
  | hookRun .after .. => true
  | _ => false

def isTargetCall : Entry → Bool
  | targetCalled _ => true
  | _ => false

end Entry

namespace Hook

variable {A ε : Type} [Describe A]

def entry (phase : HookPhase) (args : A) (hook : Hook A) : Entry :=
  .hookRun phase hook.name (describe args)

def Returns (args : A) (hook : Hook A) : Prop := hook.action args = .ok ()

def PanicsWith (args : A) (hook : Hook A) (text : String) : Prop := hook.action args = .error text

/-- How a list of hooks runs: in order, up to and including the first that panics. -/
inductive Performed (phase : HookPhase) (args : A) :
    List (Hook A) → Trace → Client Unit → Prop where
  | allReturn {hooks : List (Hook A)} (hall : ∀ hook ∈ hooks, hook.Returns args) :
      Performed phase args hooks (hooks.map (entry phase args)) (.ok ())
  | panics {earlier rest : List (Hook A)} {hook : Hook A} {text : String}
      (hearlier : ∀ other ∈ earlier, other.Returns args) (hhook : hook.PanicsWith args text) :
      Performed phase args (earlier ++ hook :: rest) ((earlier ++ [hook]).map (entry phase args))
        (.error text)

theorem exists_performed (phase : HookPhase) (args : A) (hooks : List (Hook A)) :
    ∃ trace finish, Performed phase args hooks trace finish := by
  rcases forall_or_exists_first (Returns args) hooks with
    hall | ⟨earlier, hook, rest, rfl, hearlier, hhook⟩
  · exact ⟨_, _, .allReturn hall⟩
  · cases h : hook.action args with
    | ok u => exact absurd h hhook
    | error text => exact ⟨_, _, .panics hearlier h⟩

theorem run_eq (phase : HookPhase) (args : A) (hook : Hook A) :
    (hook.run phase args : Run ε Unit) =
      (Run.call (hook.action args)).after [hook.entry phase args] := rfl

theorem runAll_eq_each (phase : HookPhase) (args : A) (hooks : List (Hook A)) :
    (runAll phase args hooks : Run ε Unit) = Run.each (run phase args) hooks := by
  induction hooks with
  | nil => rfl
  | cons hook rest ih => rw [runAll, Run.each, ih]

theorem traces_run (phase : HookPhase) (args : A) (hooks : List (Hook A)) :
    Run.traces (run (ε := ε) phase args) hooks = hooks.map (entry phase args) := by
  simp [Run.traces, run_eq, List.map_eq_flatMap]

theorem run_returned_iff {phase : HookPhase} {args : A} {hook : Hook A} :
    (hook.run phase args : Run ε Unit).outcome = .returned () ↔ hook.Returns args := by
  simp [run_eq, Returns]

theorem run_panicked_iff {phase : HookPhase} {args : A} {hook : Hook A} {text : String} :
    (hook.run phase args : Run ε Unit).outcome = .panicked text ↔ hook.PanicsWith args text := by
  simp [run_eq, PanicsWith]

theorem runAll_eq_of_performed {phase : HookPhase} {args : A} {hooks : List (Hook A)}
    {trace : Trace} {finish : Client Unit} (h : Performed phase args hooks trace finish) :
    (runAll phase args hooks : Run ε Unit) = (Run.call finish).after trace := by
  rw [runAll_eq_each]
  cases h with
  | allReturn hall =>
    rw [Run.each_of_returned (fun hook hmem => run_returned_iff.2 (hall hook hmem)), traces_run]
    ext1 <;> simp
  | @panics earlier rest hook text hearlier hhook =>
    have hpanicked : (hook.run phase args : Run ε Unit).outcome = .panicked text :=
      run_panicked_iff.2 hhook
    rw [Run.each_of_stopped (fun other hmem => run_returned_iff.2 (hearlier other hmem))
      (by simp [hpanicked]), traces_run, hpanicked]
    ext1 <;> simp

theorem exists_not_returns_of_performed {phase : HookPhase} {args : A} {hooks : List (Hook A)}
    {trace : Trace} {text : String} (h : Performed phase args hooks trace (.error text)) :
    ∃ hook ∈ hooks, ¬ hook.Returns args := by
  cases h with
  | @panics earlier rest hook text hearlier hhook =>
    refine ⟨hook, by simp, ?_⟩
    intro hreturns
    have heq := hreturns.symm.trans hhook
    cases heq

theorem forall_returns_iff_of_performed {phase : HookPhase} {args : A} {hooks : List (Hook A)}
    {trace : Trace} {finish : Client Unit} (h : Performed phase args hooks trace finish) :
    (∀ hook ∈ hooks, hook.Returns args) ↔ finish = .ok () := by
  cases finish with
  | ok u =>
    cases h with
    | allReturn hall => exact iff_of_true hall rfl
  | error text =>
    obtain ⟨hook, hmem, hhook⟩ := exists_not_returns_of_performed h
    exact iff_of_false (fun hall => hhook (hall hook hmem)) (by simp)

theorem exists_entry_of_performed {phase : HookPhase} {args : A} {hooks : List (Hook A)}
    {trace : Trace} {finish : Client Unit} (h : Performed phase args hooks trace finish)
    {e : Entry} (he : e ∈ trace) : ∃ hook : Hook A, e = hook.entry phase args := by
  cases h with
  | allReturn | panics =>
    obtain ⟨hook, _, rfl⟩ := List.mem_map.1 he
    exact ⟨hook, rfl⟩

theorem filter_eq_nil_of_performed {phase : HookPhase} {args : A} {hooks : List (Hook A)}
    {trace : Trace} {finish : Client Unit} (h : Performed phase args hooks trace finish)
    (keep : Entry → Bool) (hkeep : ∀ name, keep (.hookRun phase name (describe args)) = false) :
    trace.filter keep = [] := by
  rw [List.filter_eq_nil_iff]
  intro e he
  obtain ⟨hook, rfl⟩ := exists_entry_of_performed h he
  simp [Hook.entry, hkeep]

theorem filter_eq_self_of_performed {phase : HookPhase} {args : A} {hooks : List (Hook A)}
    {trace : Trace} {finish : Client Unit} (h : Performed phase args hooks trace finish)
    (keep : Entry → Bool) (hkeep : ∀ name, keep (.hookRun phase name (describe args)) = true) :
    trace.filter keep = trace := by
  rw [List.filter_eq_self]
  intro e he
  obtain ⟨hook, rfl⟩ := exists_entry_of_performed h he
  exact hkeep hook.name

end Hook

namespace CallContract

variable {A R ε : Type} [Describe A]

inductive Works (contract : CallContract A R ε) (args : A) : Run (CallError ε) R → Prop where
  | hookPanics {before : Trace} {text : String}
      (hbefore : Hook.Performed .before args contract.before before (.error text)) :
      Works contract args ⟨before, .panicked text⟩
  | preconditionPanics {before checks : Trace} {text : String}
      (hbefore : Hook.Performed .before args contract.before before (.ok ()))
      (hchecks : Predicate.Searched args contract.preconditions checks (.error text)) :
      Works contract args ⟨before ++ checks, .panicked text⟩
  | preconditionFails {before checks : Trace} {index : Nat} {p : Predicate A}
      (hbefore : Hook.Performed .before args contract.before before (.ok ()))
      (hchecks : Predicate.Searched args contract.preconditions checks (.ok (some (index, p)))) :
      Works contract args ⟨before ++ checks ++ [.reported (.preconditionRejected index p.name)],
        .refused (.precondition index p.name)⟩
  | targetPanics {before checks : Trace} {text : String}
      (hbefore : Hook.Performed .before args contract.before before (.ok ()))
      (hchecks : Predicate.Searched args contract.preconditions checks (.ok none))
      (htarget : contract.target args = .error text) :
      Works contract args ⟨before ++ checks ++ [.targetCalled (describe args)], .panicked text⟩
  | targetFails {before checks : Trace} {error : ε}
      (hbefore : Hook.Performed .before args contract.before before (.ok ()))
      (hchecks : Predicate.Searched args contract.preconditions checks (.ok none))
      (htarget : contract.target args = .ok (.error error)) :
      Works contract args ⟨before ++ checks ++ [.targetCalled (describe args)],
        .refused (.target error)⟩
  | postconditionPanics {before checks after : Trace} {result : R} {text : String}
      (hbefore : Hook.Performed .before args contract.before before (.ok ()))
      (hchecks : Predicate.Searched args contract.preconditions checks (.ok none))
      (htarget : contract.target args = .ok (.ok result))
      (hafter : Predicate.Searched result contract.postconditions after (.error text)) :
      Works contract args ⟨before ++ checks ++ [.targetCalled (describe args)] ++ after,
        .panicked text⟩
  | postconditionFails {before checks after : Trace} {result : R} {index : Nat} {p : Predicate R}
      (hbefore : Hook.Performed .before args contract.before before (.ok ()))
      (hchecks : Predicate.Searched args contract.preconditions checks (.ok none))
      (htarget : contract.target args = .ok (.ok result))
      (hafter : Predicate.Searched result contract.postconditions after (.ok (some (index, p)))) :
      Works contract args ⟨before ++ checks ++ [.targetCalled (describe args)] ++ after ++
          [.reported (.postconditionRejected index p.name)],
        .refused (.postcondition index p.name)⟩
  | returns {before checks after : Trace} {result : R}
      (hbefore : Hook.Performed .before args contract.before before (.ok ()))
      (hchecks : Predicate.Searched args contract.preconditions checks (.ok none))
      (htarget : contract.target args = .ok (.ok result))
      (hafter : Predicate.Searched result contract.postconditions after (.ok none)) :
      Works contract args ⟨before ++ checks ++ [.targetCalled (describe args)] ++ after,
        .returned result⟩

theorem exists_works (contract : CallContract A R ε) (args : A) :
    ∃ work, contract.Works args work := by
  obtain ⟨before, finish, hbefore⟩ := Hook.exists_performed .before args contract.before
  cases finish with
  | error text => exact ⟨_, .hookPanics hbefore⟩
  | ok u =>
    obtain ⟨checks, found, hchecks⟩ := Predicate.exists_searched args contract.preconditions
    match found with
    | .error text => exact ⟨_, .preconditionPanics hbefore hchecks⟩
    | .ok (some (index, p)) => exact ⟨_, .preconditionFails hbefore hchecks⟩
    | .ok none =>
      match htarget : contract.target args with
      | .error text => exact ⟨_, .targetPanics hbefore hchecks htarget⟩
      | .ok (.error error) => exact ⟨_, .targetFails hbefore hchecks htarget⟩
      | .ok (.ok result) =>
        obtain ⟨after, found, hafter⟩ := Predicate.exists_searched result contract.postconditions
        match found with
        | .error text => exact ⟨_, .postconditionPanics hbefore hchecks htarget hafter⟩
        | .ok (some (index, p)) => exact ⟨_, .postconditionFails hbefore hchecks htarget hafter⟩
        | .ok none => exact ⟨_, .returns hbefore hchecks htarget hafter⟩

omit [Describe A] in
theorem checkArguments_eq {contract : CallContract A R ε} {args : A} {checks : Trace}
    {found : Client (Option (Nat × Predicate A))}
    (h : Predicate.Searched args contract.preconditions checks found) :
    contract.checkArguments args =
      match found with
      | .error text => ⟨checks, .panicked text⟩
      | .ok none => ⟨checks, .returned ()⟩
      | .ok (some (index, p)) => ⟨checks ++ [.reported (.preconditionRejected index p.name)],
          .refused (.precondition index p.name)⟩ := by
  unfold checkArguments
  rw [Predicate.firstFailing_eq_of_searched h, Run.after_bind]
  match found with
  | .error text => ext1 <;> simp
  | .ok none => ext1 <;> simp
  | .ok (some (index, p)) => ext1 <;> simp [Run.report]

omit [Describe A] in
theorem checkResult_eq {contract : CallContract A R ε} {result : R} {checks : Trace}
    {found : Client (Option (Nat × Predicate R))}
    (h : Predicate.Searched result contract.postconditions checks found) :
    contract.checkResult result =
      match found with
      | .error text => ⟨checks, .panicked text⟩
      | .ok none => ⟨checks, .returned ()⟩
      | .ok (some (index, p)) => ⟨checks ++ [.reported (.postconditionRejected index p.name)],
          .refused (.postcondition index p.name)⟩ := by
  unfold checkResult
  rw [Predicate.firstFailing_eq_of_searched h, Run.after_bind]
  match found with
  | .error text => ext1 <;> simp
  | .ok none => ext1 <;> simp
  | .ok (some (index, p)) => ext1 <;> simp [Run.report]

theorem callTarget_eq (contract : CallContract A R ε) (args : A) :
    contract.callTarget args = ⟨[.targetCalled (describe args)],
      match contract.target args with
      | .error text => .panicked text
      | .ok (.error error) => .refused (.target error)
      | .ok (.ok result) => .returned result⟩ := by
  unfold callTarget
  match contract.target args with
  | .error text => rfl
  | .ok (.error error) => rfl
  | .ok (.ok result) => rfl

theorem guardedCall_eq_of_works {contract : CallContract A R ε} {args : A}
    {work : Run (CallError ε) R} (h : contract.Works args work) :
    contract.guardedCall args = work := by
  unfold guardedCall
  cases h with
  | hookPanics hbefore =>
    rw [Hook.runAll_eq_of_performed hbefore, Run.after_bind]
    ext1 <;> simp
  | preconditionPanics hbefore hchecks | preconditionFails hbefore hchecks =>
    rw [Hook.runAll_eq_of_performed hbefore, Run.after_bind, checkArguments_eq hchecks]
    simp
  | targetPanics hbefore hchecks htarget | targetFails hbefore hchecks htarget =>
    rw [Hook.runAll_eq_of_performed hbefore, Run.after_bind, checkArguments_eq hchecks,
      callTarget_eq, htarget]
    simp
  | postconditionPanics hbefore hchecks htarget hafter
  | postconditionFails hbefore hchecks htarget hafter
  | returns hbefore hchecks htarget hafter =>
    rw [Hook.runAll_eq_of_performed hbefore, Run.after_bind, checkArguments_eq hchecks,
      callTarget_eq, htarget]
    ext1 <;> simp [checkResult_eq hafter, -bind_pure_comp]

/-- The sequence of a whole call: a way out, and then the after-hooks. An after-hook that panics
replaces the outcome, unless that is a panic already. -/
inductive Performs (contract : CallContract A R ε) (args : A) : Run (CallError ε) R → Prop where
  | cleansUp {work : Run (CallError ε) R} {after : Trace} (hwork : contract.Works args work)
      (hafter : Hook.Performed .after args contract.after after (.ok ())) :
      Performs contract args ⟨work.trace ++ after, work.outcome⟩
  | cleanupPanics {work : Run (CallError ε) R} {after : Trace} {text : String}
      (hwork : contract.Works args work) (hcalm : work.outcome.isPanicked = false)
      (hafter : Hook.Performed .after args contract.after after (.error text)) :
      Performs contract args ⟨work.trace ++ after, .panicked text⟩

theorem invoke_eq_of_performs {contract : CallContract A R ε} {args : A}
    {run : Run (CallError ε) R} (h : contract.Performs args run) : contract.invoke args = run := by
  unfold invoke
  cases h with
  | @cleansUp work after hwork hafter =>
    rw [guardedCall_eq_of_works hwork, Hook.runAll_eq_of_performed hafter]
    have hlive : work.outcome.isAborted = false := by cases hwork <;> rfl
    rw [Run.cleanedUpBy_of_returned work hlive (by simp)]
    simp
  | @cleanupPanics work after text hwork hcalm hafter =>
    rw [guardedCall_eq_of_works hwork, Hook.runAll_eq_of_performed hafter]
    cases hwork <;> simp_all [Run.cleanedUpBy, Outcome.afterCleanup, Outcome.isPanicked]

/-- An after-hook panics while a panic of the call itself is on its way. -/
def PanicsTwice (contract : CallContract A R ε) (args : A) : Prop :=
  (contract.guardedCall args).outcome.isPanicked = true ∧
    ∃ hook ∈ contract.after, ¬ hook.Returns args

theorem exists_performs {contract : CallContract A R ε} {args : A}
    (h : ¬ contract.PanicsTwice args) : ∃ run, contract.Performs args run := by
  obtain ⟨work, hwork⟩ := contract.exists_works args
  obtain ⟨after, finish, hafter⟩ := Hook.exists_performed .after args contract.after
  cases finish with
  | ok u => exact ⟨_, .cleansUp hwork hafter⟩
  | error text =>
    refine ⟨_, .cleanupPanics hwork ?_ hafter⟩
    rw [Bool.eq_false_iff]
    intro hpanics
    apply h
    refine ⟨?_, Hook.exists_not_returns_of_performed hafter⟩
    rw [guardedCall_eq_of_works hwork]
    exact hpanics

def Reaches (contract : CallContract A R ε) (args : A) : Prop :=
  (∀ hook ∈ contract.before, hook.Returns args) ∧ ∀ p ∈ contract.preconditions, p.Holds args

/-- Of the entries that are no hooks, tests or reports, a way out has one: the call of the target,
if it gets there. -/
theorem filter_of_works {contract : CallContract A R ε} {args : A} {work : Run (CallError ε) R}
    (h : contract.Works args work) (keep : Entry → Bool)
    (hhook : ∀ name, keep (.hookRun .before name (describe args)) = false)
    (htested : ∀ label, keep (.tested label) = false)
    (hreported : ∀ event, keep (.reported event) = false) :
    contract.Reaches args ∧
        work.trace.filter keep = List.filter keep [.targetCalled (describe args)] ∨
      ¬ contract.Reaches args ∧ work.trace.filter keep = [] := by
  cases h with
  | hookPanics hbefore =>
    refine .inr ⟨?_, Hook.filter_eq_nil_of_performed hbefore keep hhook⟩
    rintro ⟨hreturn, _⟩
    cases (Hook.forall_returns_iff_of_performed hbefore).1 hreturn
  | preconditionPanics hbefore hchecks | preconditionFails hbefore hchecks =>
    refine .inr ⟨?_, ?_⟩
    · rintro ⟨_, hhold⟩
      cases (Predicate.forall_holds_iff_of_searched hchecks).1 hhold
    · simp only [List.filter_append, Hook.filter_eq_nil_of_performed hbefore keep hhook,
        Predicate.filter_eq_nil_of_searched hchecks keep htested, List.filter_cons, hreported]
      rfl
  | targetPanics hbefore hchecks | targetFails hbefore hchecks =>
    refine .inl ⟨⟨(Hook.forall_returns_iff_of_performed hbefore).2 rfl,
      (Predicate.forall_holds_iff_of_searched hchecks).2 rfl⟩, ?_⟩
    simp only [List.filter_append, Hook.filter_eq_nil_of_performed hbefore keep hhook,
      Predicate.filter_eq_nil_of_searched hchecks keep htested, List.nil_append]
  | postconditionPanics hbefore hchecks _ hafter | returns hbefore hchecks _ hafter =>
    refine .inl ⟨⟨(Hook.forall_returns_iff_of_performed hbefore).2 rfl,
      (Predicate.forall_holds_iff_of_searched hchecks).2 rfl⟩, ?_⟩
    simp only [List.filter_append, Hook.filter_eq_nil_of_performed hbefore keep hhook,
      Predicate.filter_eq_nil_of_searched hchecks keep htested,
      Predicate.filter_eq_nil_of_searched hafter keep htested, List.nil_append, List.append_nil]
  | @postconditionFails _ _ after _ index p hbefore hchecks _ hafter =>
    refine .inl ⟨⟨(Hook.forall_returns_iff_of_performed hbefore).2 rfl,
      (Predicate.forall_holds_iff_of_searched hchecks).2 rfl⟩, ?_⟩
    have hreport : List.filter keep [.reported (.postconditionRejected index p.name)] = [] := by
      simp [hreported]
    simp only [List.filter_append, Hook.filter_eq_nil_of_performed hbefore keep hhook,
      Predicate.filter_eq_nil_of_searched hchecks keep htested,
      Predicate.filter_eq_nil_of_searched hafter keep htested, hreport, List.nil_append,
      List.append_nil]

/-- The after-hooks that a call runs are all that it leaves of after-hooks, and it calls the target
once if it gets there. -/
theorem filter_of_performs {contract : CallContract A R ε} {args : A} {run : Run (CallError ε) R}
    (h : contract.Performs args run) :
    (∃ finish, Hook.Performed .after args contract.after (run.trace.filter Entry.isAfterHook)
        finish) ∧
      (contract.Reaches args ∧
          run.trace.filter Entry.isTargetCall = [.targetCalled (describe args)] ∨
        ¬ contract.Reaches args ∧ run.trace.filter Entry.isTargetCall = []) := by
  obtain ⟨work, after, finish, outcome, hwork, hafter, rfl⟩ : ∃ work after finish outcome,
      contract.Works args work ∧ Hook.Performed .after args contract.after after finish ∧
        run = ⟨work.trace ++ after, outcome⟩ := by
    cases h with
    | cleansUp hwork hafter => exact ⟨_, _, _, _, hwork, hafter, rfl⟩
    | cleanupPanics hwork _ hafter => exact ⟨_, _, _, _, hwork, hafter, rfl⟩
  have hhooks : work.trace.filter Entry.isAfterHook = [] := by
    rcases filter_of_works hwork Entry.isAfterHook (fun _ => rfl) (fun _ => rfl) (fun _ => rfl) with
      ⟨_, h⟩ | ⟨_, h⟩ <;> exact h
  have hcall := filter_of_works hwork Entry.isTargetCall (fun _ => rfl) (fun _ => rfl)
    (fun _ => rfl)
  constructor
  · refine ⟨finish, ?_⟩
    rw [List.filter_append, hhooks, List.nil_append,
      Hook.filter_eq_self_of_performed hafter Entry.isAfterHook (fun _ => rfl)]
    exact hafter
  · rw [List.filter_append,
      Hook.filter_eq_nil_of_performed hafter Entry.isTargetCall (fun _ => rfl), List.append_nil]
    exact hcall

/-- A call performs exactly one sequence of stages. It runs each after-hook once on every way out,
up to one that panics, and calls the target once if all that comes before let it. -/
theorem invoke_eq_iff_performs {contract : CallContract A R ε} {args : A}
    (h : ¬ contract.PanicsTwice args) :
    (∀ run, contract.invoke args = run ↔ contract.Performs args run) ∧
      (∃ finish, Hook.Performed .after args contract.after
        ((contract.invoke args).trace.filter Entry.isAfterHook) finish) ∧
      (contract.Reaches args ∧ (contract.invoke args).trace.filter Entry.isTargetCall =
          [.targetCalled (describe args)] ∨
        ¬ contract.Reaches args ∧
          (contract.invoke args).trace.filter Entry.isTargetCall = []) := by
  obtain ⟨performed, hperformed⟩ := exists_performs h
  have hinvoke := invoke_eq_of_performs hperformed
  refine ⟨?_, by rw [hinvoke]; exact filter_of_performs hperformed⟩
  intro run
  constructor
  · intro hrun
    rw [← hrun, hinvoke]
    exact hperformed
  · exact invoke_eq_of_performs

/-- An after-hook that panics replaces the refusal of a precondition and keeps the later ones from
running. -/
theorem performs_of_panicking_after_hook :
    let contract : CallContract String Nat String :=
      { target := fun _ => .ok (.ok 0)
        preconditions := [.named "never" fun _ => .ok false]
        postconditions := []
        before := [⟨"first", fun _ => .ok ()⟩]
        after := [⟨"second", fun _ => .error "gone"⟩, ⟨"third", fun _ => .ok ()⟩] }
    ¬ contract.PanicsTwice "x" ∧
      contract.Performs "x" ⟨[.hookRun .before "first" (describe "x"), .tested "never",
        .reported (.preconditionRejected 0 "never"), .hookRun .after "second" (describe "x")],
        .panicked "gone"⟩ := by
  intro contract
  have hcalm : ¬ contract.PanicsTwice "x" := fun h => Bool.noConfusion h.1
  exact ⟨hcalm, ((invoke_eq_iff_performs hcalm).1 _).1 rfl⟩

end CallContract
end RuntimeContracts

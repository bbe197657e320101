import Mathlib.Order.Bounds.Basic
import Mathlib.Order.Nat
import RuntimeContracts.Proofs.Call.Pipeline
import RuntimeContracts.Proofs.Predicate.Conjunction

/-!
# The outcomes of a contracted call

A call in which nothing panics ends in one of four ways, and both lists of predicates and the target
decide which: it returns, or it blames the first precondition that fails, the target, or the first
postcondition that fails. A rejection is reported before the after-hooks run. The order of the lists
decides nothing but the place and the name that a rejection carries.
-/

namespace RuntimeContracts

namespace Entry

/-- The entries that close a call: the reports and the after-hooks. -/
def isClosing : Entry → Bool
  | reported _ => true
  | hookRun .after .. => true
  | _ => false

theorem isShown_of_isClosing {watch : Watch} (hwatch : watch.events = true) {entry : Entry}
    (h : entry.isClosing = true) : entry.isShown watch = true := by
  cases entry with
  | reported event => exact hwatch
  | hookRun phase name args => rfl
  | _ => cases h

theorem filter_shown {watch : Watch} (hwatch : watch.events = true) (trace : Trace) :
    (trace.filter (isShown watch)).filter isClosing = trace.filter isClosing := by
  rw [List.filter_filter]
  refine List.filter_congr fun entry _ => ?_
  cases hclosing : entry.isClosing with
  | true => rw [isShown_of_isClosing hwatch hclosing, Bool.and_true]
  | false => rfl

theorem isClosing_of_event {entry : Entry} {event : Event} (h : entry.event? = some event) :
    entry.isClosing = true := by
  cases entry with
  | reported event => rfl
  | _ => cases h

end Entry

namespace Predicate

variable {V : Type} {v : V} {ps qs : List (Predicate V)} {index : Nat} {name : String}

structure FailsLeast (v : V) (ps : List (Predicate V)) (index : Nat) (name : String) : Prop where
  isLeast : IsLeast {i | ∃ p, ps[i]? = some p ∧ p.Fails v} index
  name_eq : ps[index]?.map Predicate.name = some name

theorem FailsFirst.failsLeast {p : Predicate V} (h : FailsFirst v ps index p) :
    FailsLeast v ps index p.name := by
  obtain ⟨earlier, rest, rfl, rfl, hearlier, hp⟩ := h
  have hplace : (earlier ++ p :: rest)[earlier.length]? = some p := by simp
  refine ⟨⟨⟨p, hplace, hp⟩, ?_⟩, by rw [hplace, Option.map_some]⟩
  rintro i ⟨q, hq, hfails⟩
  by_contra hlt
  rw [List.getElem?_append_left (Nat.lt_of_not_le hlt)] at hq
  exact not_holds_of_fails hfails (hearlier q (List.mem_of_getElem? hq))

theorem FailsLeast.unique {index' : Nat} {name' : String} (h : FailsLeast v ps index name)
    (h' : FailsLeast v ps index' name') : index = index' ∧ name = name' := by
  obtain rfl := h.isLeast.unique h'.isLeast
  exact ⟨rfl, Option.some.inj (h.name_eq.symm.trans h'.name_eq)⟩

theorem FailsLeast.exists_fails (h : FailsLeast v ps index name) : ∃ p ∈ ps, p.Fails v := by
  obtain ⟨p, hp, hfails⟩ := h.isLeast.1
  exact ⟨p, List.mem_of_getElem? hp, hfails⟩

theorem FailsLeast.not_forall_holds (h : FailsLeast v ps index name) :
    ¬ ∀ p ∈ ps, p.Holds v := by
  obtain ⟨p, hmem, hfails⟩ := h.exists_fails
  exact fun hall => not_holds_of_fails hfails (hall p hmem)

theorem exists_failsLeast (h : ∃ p ∈ ps, p.Fails v) : ∃ index name, FailsLeast v ps index name := by
  classical
  obtain ⟨p, hmem, hfails⟩ := h
  obtain ⟨i, hi⟩ := List.getElem?_of_mem hmem
  have hplace : ∃ i, ∃ p : Predicate V, ps[i]? = some p ∧ p.Fails v := ⟨i, p, hi, hfails⟩
  have hleast := Nat.isLeast_find hplace
  obtain ⟨q, hq, _⟩ := hleast.1
  exact ⟨_, q.name, hleast, by rw [hq, Option.map_some]⟩

/-- Rearranging the list moves the first failure and neither brings it about nor removes it. -/
theorem FailsLeast.perm (h : FailsLeast v ps index name) (hperm : ps.Perm qs) :
    ∃ index' name', FailsLeast v qs index' name' := by
  obtain ⟨p, hmem, hfails⟩ := h.exists_fails
  exact exists_failsLeast ⟨p, hperm.mem_iff.1 hmem, hfails⟩

variable {trace : Trace}

theorem not_searched_panics (hcalm : ∀ p ∈ ps, ∀ text, ¬ p.PanicsWith v text) {text : String} :
    ¬ Searched v ps trace (.error text) := by
  intro h
  cases h with
  | panics hearlier hp => exact hcalm _ (by simp) _ hp

/-- A search that nothing interrupts finds the first failure. -/
theorem FailsLeast.exists_searched (h : FailsLeast v ps index name)
    (hcalm : ∀ p ∈ ps, ∀ text, ¬ p.PanicsWith v text) :
    ∃ trace p, p.name = name ∧ Searched v ps trace (.ok (some (index, p))) := by
  obtain ⟨trace, found, hsearched⟩ := Predicate.exists_searched v ps
  match found with
  | .error text => exact absurd hsearched (not_searched_panics hcalm)
  | .ok none => exact absurd ((forall_holds_iff_of_searched hsearched).2 rfl) h.not_forall_holds
  | .ok (some (place, p)) =>
    obtain ⟨rfl, rfl⟩ := (failsFirst_of_searched hsearched).failsLeast.unique h
    exact ⟨trace, p, rfl, hsearched⟩

end Predicate

/-- What a call error is about, without the place and the name of a predicate. -/
inductive CallError.Cause (ε : Type) where
  | arguments
  | target (error : ε)
  | result
deriving DecidableEq, Repr

def CallError.cause {ε : Type} : CallError ε → CallError.Cause ε
  | precondition .. => .arguments
  | target error => .target error
  | postcondition .. => .result

namespace CallContract

variable {A R ε : Type}

structure PanicFree (contract : CallContract A R ε) (args : A) : Prop where
  before : ∀ hook ∈ contract.before, hook.Returns args
  preconditions : ∀ p ∈ contract.preconditions, ∀ text, ¬ p.PanicsWith args text
  target : ∀ text, contract.target args ≠ .error text
  postconditions : ∀ result, contract.target args = .ok (.ok result) →
    ∀ p ∈ contract.postconditions, ∀ text, ¬ p.PanicsWith result text
  after : ∀ hook ∈ contract.after, hook.Returns args

inductive Decides (contract : CallContract A R ε) (args : A) : Outcome (CallError ε) R → Prop where
  | returns {result : R} (hpre : ∀ p ∈ contract.preconditions, p.Holds args)
      (htarget : contract.target args = .ok (.ok result))
      (hpost : ∀ p ∈ contract.postconditions, p.Holds result) :
      Decides contract args (.returned result)
  | preconditionFails {index : Nat} {name : String}
      (hleast : Predicate.FailsLeast args contract.preconditions index name) :
      Decides contract args (.refused (.precondition index name))
  | targetFails {error : ε} (hpre : ∀ p ∈ contract.preconditions, p.Holds args)
      (htarget : contract.target args = .ok (.error error)) :
      Decides contract args (.refused (.target error))
  | postconditionFails {result : R} {index : Nat} {name : String}
      (hpre : ∀ p ∈ contract.preconditions, p.Holds args)
      (htarget : contract.target args = .ok (.ok result))
      (hleast : Predicate.FailsLeast result contract.postconditions index name) :
      Decides contract args (.refused (.postcondition index name))

section Decides

variable {contract : CallContract A R ε} {args : A}

theorem decides_returned_iff {result : R} : contract.Decides args (.returned result) ↔
    (∀ p ∈ contract.preconditions, p.Holds args) ∧ contract.target args = .ok (.ok result) ∧
      ∀ p ∈ contract.postconditions, p.Holds result := by
  constructor
  · intro h
    cases h with
    | returns hpre htarget hpost => exact ⟨hpre, htarget, hpost⟩
  · rintro ⟨hpre, htarget, hpost⟩
    exact .returns hpre htarget hpost

theorem decides_precondition_iff {index : Nat} {name : String} :
    contract.Decides args (.refused (.precondition index name)) ↔
      Predicate.FailsLeast args contract.preconditions index name := by
  constructor
  · intro h
    cases h with
    | preconditionFails hleast => exact hleast
  · exact .preconditionFails

theorem decides_target_iff {error : ε} : contract.Decides args (.refused (.target error)) ↔
    (∀ p ∈ contract.preconditions, p.Holds args) ∧ contract.target args = .ok (.error error) := by
  constructor
  · intro h
    cases h with
    | targetFails hpre htarget => exact ⟨hpre, htarget⟩
  · rintro ⟨hpre, htarget⟩
    exact .targetFails hpre htarget

theorem decides_postcondition_iff {index : Nat} {name : String} :
    contract.Decides args (.refused (.postcondition index name)) ↔
      (∀ p ∈ contract.preconditions, p.Holds args) ∧ ∃ result,
        contract.target args = .ok (.ok result) ∧
          Predicate.FailsLeast result contract.postconditions index name := by
  constructor
  · intro h
    cases h with
    | postconditionFails hpre htarget hleast => exact ⟨hpre, _, htarget, hleast⟩
  · rintro ⟨hpre, result, htarget, hleast⟩
    exact .postconditionFails hpre htarget hleast

end Decides

structure Rearranges (contract rearranged : CallContract A R ε) : Prop where
  target_eq : rearranged.target = contract.target
  preconditions : contract.preconditions.Perm rearranged.preconditions
  postconditions : contract.postconditions.Perm rearranged.postconditions
  before_eq : rearranged.before = contract.before
  after_eq : rearranged.after = contract.after

section Rearrangement

variable {contract rearranged : CallContract A R ε} {args : A}

theorem Rearranges.panicFree (h : contract.Rearranges rearranged)
    (hcalm : contract.PanicFree args) : rearranged.PanicFree args where
  before := by
    rw [h.before_eq]
    exact hcalm.before
  preconditions p hmem := hcalm.preconditions p (h.preconditions.mem_iff.2 hmem)
  target := by
    rw [h.target_eq]
    exact hcalm.target
  postconditions result htarget p hmem :=
    hcalm.postconditions result (h.target_eq ▸ htarget) p (h.postconditions.mem_iff.2 hmem)
  after := by
    rw [h.after_eq]
    exact hcalm.after

theorem Rearranges.preconditions_hold (h : contract.Rearranges rearranged)
    (hpre : ∀ p ∈ contract.preconditions, p.Holds args) :
    ∀ p ∈ rearranged.preconditions, p.Holds args :=
  fun p hmem => hpre p (h.preconditions.mem_iff.2 hmem)

/-- The lists may be rearranged without a change to what returns and what is to blame. -/
theorem Rearranges.decides (h : contract.Rearranges rearranged)
    {outcome : Outcome (CallError ε) R} (hdecides : contract.Decides args outcome) :
    ∃ outcome', rearranged.Decides args outcome' ∧
      outcome'.mapError CallError.cause = outcome.mapError CallError.cause := by
  cases hdecides with
  | returns hpre htarget hpost =>
    refine ⟨_, .returns (h.preconditions_hold hpre) (h.target_eq ▸ htarget) ?_, rfl⟩
    exact fun p hmem => hpost p (h.postconditions.mem_iff.2 hmem)
  | preconditionFails hleast =>
    obtain ⟨index, name, hleast'⟩ := hleast.perm h.preconditions
    exact ⟨_, .preconditionFails hleast', rfl⟩
  | targetFails hpre htarget =>
    exact ⟨_, .targetFails (h.preconditions_hold hpre) (h.target_eq ▸ htarget), rfl⟩
  | postconditionFails hpre htarget hleast =>
    obtain ⟨index, name, hleast'⟩ := hleast.perm h.postconditions
    exact ⟨_, .postconditionFails (h.preconditions_hold hpre) (h.target_eq ▸ htarget) hleast', rfl⟩

end Rearrangement

def rejections : Outcome (CallError ε) R → List Event
  | .refused (.precondition index name) => [.preconditionRejected index name]
  | .refused (.postcondition index name) => [.postconditionRejected index name]
  | _ => []

theorem level_of_mem_rejections {outcome : Outcome (CallError ε) R} {event : Event}
    (h : event ∈ rejections outcome) : event.level = .debug := by
  match outcome with
  | .refused (.precondition index name) => rw [List.mem_singleton.1 h]; rfl
  | .refused (.postcondition index name) => rw [List.mem_singleton.1 h]; rfl

variable [Describe A] {contract : CallContract A R ε} {args : A} {work : Run (CallError ε) R}
  {outcome : Outcome (CallError ε) R}

theorem decides_of_works (h : contract.Works args work) (hcalm : contract.PanicFree args) :
    contract.Decides args work.outcome := by
  -- Of the eight ways out, four end in a panic, and each of these had to come from client code.
  cases h with
  | hookPanics hbefore => cases (Hook.forall_returns_iff_of_performed hbefore).1 hcalm.before
  | preconditionPanics _ hchecks =>
    exact absurd hchecks (Predicate.not_searched_panics hcalm.preconditions)
  | preconditionFails _ hchecks =>
    exact .preconditionFails (Predicate.failsFirst_of_searched hchecks).failsLeast
  | targetPanics _ _ htarget => exact absurd htarget (hcalm.target _)
  | targetFails _ hchecks htarget =>
    exact .targetFails ((Predicate.forall_holds_iff_of_searched hchecks).2 rfl) htarget
  | postconditionPanics _ _ htarget hafter =>
    exact absurd hafter (Predicate.not_searched_panics (hcalm.postconditions _ htarget))
  | postconditionFails _ hchecks htarget hafter =>
    exact .postconditionFails ((Predicate.forall_holds_iff_of_searched hchecks).2 rfl) htarget
      (Predicate.failsFirst_of_searched hafter).failsLeast
  | returns _ hchecks htarget hafter =>
    exact .returns ((Predicate.forall_holds_iff_of_searched hchecks).2 rfl) htarget
      ((Predicate.forall_holds_iff_of_searched hafter).2 rfl)

theorem Decides.exists_works (h : contract.Decides args outcome)
    (hcalm : contract.PanicFree args) : ∃ trace, contract.Works args ⟨trace, outcome⟩ := by
  have hbefore : Hook.Performed .before args contract.before _ (.ok ()) := .allReturn hcalm.before
  cases h with
  | returns hpre htarget hpost =>
    exact ⟨_, .returns hbefore (.allHold hpre) htarget (.allHold hpost)⟩
  | preconditionFails hleast =>
    obtain ⟨checks, p, rfl, hchecks⟩ := hleast.exists_searched hcalm.preconditions
    exact ⟨_, .preconditionFails hbefore hchecks⟩
  | targetFails hpre htarget => exact ⟨_, .targetFails hbefore (.allHold hpre) htarget⟩
  | postconditionFails hpre htarget hleast =>
    obtain ⟨checks, p, rfl, hafter⟩ :=
      hleast.exists_searched (hcalm.postconditions _ htarget)
    exact ⟨_, .postconditionFails hbefore (.allHold hpre) htarget hafter⟩

/-- The reports and the after-hooks of a way out are the report of its rejection. -/
theorem closing_of_works (h : contract.Works args work) :
    work.trace.filter Entry.isClosing = (rejections work.outcome).map .reported := by
  have hhooks {trace : Trace} {finish : Client Unit}
      (h : Hook.Performed .before args contract.before trace finish) :
      trace.filter Entry.isClosing = [] :=
    Hook.filter_eq_nil_of_performed h Entry.isClosing fun _ => rfl
  have htests {V : Type} {v : V} {ps : List (Predicate V)} {trace : Trace}
      {found : Client (Option (Nat × Predicate V))} (h : Predicate.Searched v ps trace found) :
      trace.filter Entry.isClosing = [] :=
    Predicate.filter_eq_nil_of_searched h Entry.isClosing fun _ => rfl
  cases h with
  | hookPanics hbefore => exact hhooks hbefore
  | preconditionPanics hbefore hchecks | preconditionFails hbefore hchecks
  | targetPanics hbefore hchecks | targetFails hbefore hchecks =>
    simp [hhooks hbefore, htests hchecks, rejections, Entry.isClosing]
  | postconditionPanics hbefore hchecks _ hafter | postconditionFails hbefore hchecks _ hafter
  | returns hbefore hchecks _ hafter =>
    simp [hhooks hbefore, htests hchecks, htests hafter, rejections, Entry.isClosing]

/-- If nothing panics, a call goes one of the ways and then runs every after-hook. -/
theorem exists_works_of_panicFree (hcalm : contract.PanicFree args) :
    ∃ work, contract.Works args work ∧
      contract.invoke args =
        ⟨work.trace ++ contract.after.map (Hook.entry .after args), work.outcome⟩ := by
  obtain ⟨work, hwork⟩ := contract.exists_works args
  exact ⟨work, hwork, invoke_eq_of_performs (.cleansUp hwork (.allReturn hcalm.after))⟩

theorem invoke_outcome_iff (hcalm : contract.PanicFree args) :
    (contract.invoke args).outcome = outcome ↔ contract.Decides args outcome := by
  constructor
  · intro houtcome
    obtain ⟨work, hwork, hinvoke⟩ := exists_works_of_panicFree hcalm
    obtain rfl : work.outcome = outcome := by rw [← houtcome, hinvoke]
    exact decides_of_works hwork hcalm
  · intro hdecides
    obtain ⟨trace, hwork⟩ := hdecides.exists_works hcalm
    rw [invoke_eq_of_performs (.cleansUp hwork (.allReturn hcalm.after))]

theorem closing_invoke (hcalm : contract.PanicFree args) :
    (contract.invoke args).trace.filter Entry.isClosing =
      (rejections (contract.invoke args).outcome).map .reported ++
        contract.after.map (Hook.entry .after args) := by
  obtain ⟨work, hwork, hinvoke⟩ := exists_works_of_panicFree hcalm
  have hafter : (contract.after.map (Hook.entry .after args)).filter Entry.isClosing =
      contract.after.map (Hook.entry .after args) :=
    Hook.filter_eq_self_of_performed (.allReturn hcalm.after) Entry.isClosing fun _ => rfl
  rw [hinvoke, List.filter_append, closing_of_works hwork, hafter]

theorem Rearranges.cause_eq {rearranged : CallContract A R ε} (h : contract.Rearranges rearranged)
    (hcalm : contract.PanicFree args) :
    (rearranged.invoke args).outcome.mapError CallError.cause =
      (contract.invoke args).outcome.mapError CallError.cause := by
  obtain ⟨outcome, hdecides, hcause⟩ := h.decides ((invoke_outcome_iff hcalm).1 rfl)
  rw [(invoke_outcome_iff (h.panicFree hcalm)).2 hdecides, hcause]

theorem level_of_mem_events (hcalm : contract.PanicFree args) {event : Event}
    (h : event ∈ (contract.invoke args).trace.events) : event.level = .debug := by
  obtain ⟨entry, hentry, hevent⟩ := List.mem_filterMap.1 h
  have hclosing := List.mem_filter.2 ⟨hentry, Entry.isClosing_of_event hevent⟩
  rw [closing_invoke hcalm, List.mem_append] at hclosing
  rcases hclosing with hreport | hhook
  · obtain ⟨reported, hmem, rfl⟩ := List.mem_map.1 hreport
    obtain rfl := Option.some.inj hevent
    exact level_of_mem_rejections hmem
  · obtain ⟨hook, _, rfl⟩ := List.mem_map.1 hhook
    cases hevent

/-- Which of the four ways a call without panics ends in is decided by the first precondition that
fails, the target, and the first postcondition that fails. A rejection is reported once, with its
place and its name and before the after-hooks, and nothing else is reported. The order of the lists
has no say in the result and in what is to blame. -/
theorem outcome_decided_by_first_failures (contract : CallContract A R ε) (args : A)
    (hcalm : contract.PanicFree args) :
    (∀ result, (contract.invoke args).outcome = .returned result ↔
      (∀ p ∈ contract.preconditions, p.Holds args) ∧
        contract.target args = .ok (.ok result) ∧
        ∀ p ∈ contract.postconditions, p.Holds result) ∧
    (∀ index name, (contract.invoke args).outcome = .refused (.precondition index name) ↔
      Predicate.FailsLeast args contract.preconditions index name) ∧
    (∀ error, (contract.invoke args).outcome = .refused (.target error) ↔
      (∀ p ∈ contract.preconditions, p.Holds args) ∧
        contract.target args = .ok (.error error)) ∧
    (∀ index name, (contract.invoke args).outcome = .refused (.postcondition index name) ↔
      (∀ p ∈ contract.preconditions, p.Holds args) ∧
        ∃ result, contract.target args = .ok (.ok result) ∧
          Predicate.FailsLeast result contract.postconditions index name) ∧
    (∀ watch : Watch, watch.events = true →
      ((contract.invoke args).trace.filter (Entry.isShown watch)).filter Entry.isClosing =
        (rejections (contract.invoke args).outcome).map .reported ++
          contract.after.map (Hook.entry .after args)) ∧
    (∀ event ∈ (contract.invoke args).trace.events, event.level = .debug) ∧
    ∀ rearranged : CallContract A R ε, contract.Rearranges rearranged →
      (rearranged.invoke args).outcome.mapError CallError.cause =
        (contract.invoke args).outcome.mapError CallError.cause := by
  have houtcome {outcome : Outcome (CallError ε) R} :
      (contract.invoke args).outcome = outcome ↔ contract.Decides args outcome :=
    invoke_outcome_iff hcalm
  refine ⟨fun result => houtcome.trans decides_returned_iff,
    fun index name => houtcome.trans decides_precondition_iff,
    fun error => houtcome.trans decides_target_iff,
    fun index name => houtcome.trans decides_postcondition_iff, fun watch hwatch => ?_,
    fun event => level_of_mem_events hcalm, fun rearranged h => h.cause_eq hcalm⟩
  rw [Entry.filter_shown hwatch, closing_invoke hcalm]

/-- Of two preconditions that fail, the contract blames the first. Rearranged, it blames another,
and still a precondition. -/
theorem rearranged_word_is_rejected :
    let filled := Predicate.named "filled" fun word : String => .ok (word ≠ "")
    let short := Predicate.named "short" fun word : String => .ok (word.length < 3)
    let certain := Predicate.named "certain" fun word : String => .ok (word ≠ "perhaps")
    let contract : CallContract String Nat String :=
      { target := fun word => .ok (.ok word.length)
        preconditions := [filled, short, certain]
        postconditions := []
        before := []
        after := [⟨"done", fun _ => .ok ()⟩] }
    let rearranged := { contract with preconditions := [certain, filled, short] }
    contract.PanicFree "perhaps" ∧ contract.Rearranges rearranged ∧
      (contract.invoke "perhaps").outcome = .refused (.precondition 1 "short") ∧
      ((contract.invoke "perhaps").trace.filter (Entry.isShown ⟨false, true⟩)).filter
          Entry.isClosing =
        [.reported (.preconditionRejected 1 "short"),
          .hookRun .after "done" (describe "perhaps")] ∧
      (rearranged.invoke "perhaps").outcome = .refused (.precondition 0 "certain") ∧
      (rearranged.invoke "perhaps").outcome.mapError CallError.cause = .refused .arguments := by
  intro filled short certain contract rearranged
  have hverdicts : ∀ p ∈ contract.preconditions, ∃ answer, p.verdict "perhaps" = .ok answer := by
    intro p hmem
    have hcases : p = filled ∨ p = short ∨ p = certain := by simpa [contract] using hmem
    rcases hcases with rfl | rfl | rfl <;> exact ⟨_, rfl⟩
  have hcalm : contract.PanicFree "perhaps" := by
    refine ⟨by simp [contract], fun p hmem text hpanics => ?_, by simp [contract],
      by simp [contract], by simp [contract, Hook.Returns]⟩
    obtain ⟨answer, hanswer⟩ := hverdicts p hmem
    rw [Predicate.panicsWith_iff, hanswer] at hpanics
    cases hpanics
  have hrearranges : contract.Rearranges rearranged :=
    ⟨rfl, @List.perm_append_comm _ [filled, short] [certain], .refl _, rfl, rfl⟩
  obtain ⟨_, hprecondition, _, _, hclosing, _, hcause⟩ :=
    outcome_decided_by_first_failures contract "perhaps" hcalm
  have houtcome : (contract.invoke "perhaps").outcome = .refused (.precondition 1 "short") := by
    have hfirst : Predicate.FailsFirst "perhaps" contract.preconditions 1 short :=
      ⟨[filled], [certain], rfl, rfl, by decide, rfl⟩
    exact (hprecondition 1 "short").2 hfirst.failsLeast
  refine ⟨hcalm, hrearranges, houtcome, ?_, rfl, ?_⟩
  · rw [hclosing _ rfl, houtcome]
    rfl
  · rw [hcause _ hrearranges, houtcome]
    rfl

end CallContract
end RuntimeContracts

import Mathlib.Data.List.Forall2
import Mathlib.Order.Bounds.Basic
import RuntimeContracts.Proofs.Linear.Sequence

/-!
# Progress through a sequence

A linear value takes its next predicate with the first write that can take it. No other choice among
the writes would take more predicates: the count after a run of writes is the greatest number of
predicates that hold, in order, on values at ascending places of the run. Further writes therefore
never lower it, wherever they come.
-/

namespace RuntimeContracts.Linear

variable {V : Type} {head : Predicate V} {sequence rest : List (Predicate V)} {v : V}
  {values more : List V} {m n : Nat}

/-- The first `m` predicates hold on values at ascending places, one for each. -/
structure Threads (sequence : List (Predicate V)) (values : List V) (m : Nat) : Prop where
  le_length : m ≤ sequence.length
  exists_places : ∃ places : List (Fin values.length), places.Pairwise (· < ·) ∧
    List.Forall₂ (fun p place => p.Holds values[place]) (sequence.take m) places

theorem threads_iff : Threads sequence values m ↔
    m ≤ sequence.length ∧ List.SublistForall₂ Predicate.Holds (sequence.take m) values := by
  rw [List.sublistForall₂_iff]
  constructor
  · rintro ⟨hle, places, hascending, hholds⟩
    refine ⟨hle, places.map (values[·]), ?_, List.map_getElem_sublist hascending⟩
    exact List.forall₂_map_right_iff.2 hholds
  · rintro ⟨hle, taken, hholds, hsublist⟩
    obtain ⟨places, rfl, hascending⟩ := List.sublist_eq_map_getElem hsublist
    exact ⟨hle, places, hascending, List.forall₂_map_right_iff.1 hholds⟩

theorem threads_zero : Threads sequence values 0 := threads_iff.2 ⟨Nat.zero_le _, .nil⟩

theorem Threads.cons (h : Threads rest values m) (hholds : head.Holds v) :
    Threads (head :: rest) (v :: values) (m + 1) := by
  obtain ⟨hle, hsublist⟩ := threads_iff.1 h
  exact threads_iff.2 ⟨Nat.succ_le_succ hle, .cons hholds hsublist⟩

theorem Threads.sublist (h : Threads sequence values m) (hmore : values.Sublist more) :
    Threads sequence more m := by
  obtain ⟨hle, hsublist⟩ := threads_iff.1 h
  obtain ⟨taken, hholds, htaken⟩ := List.sublistForall₂_iff.1 hsublist
  exact threads_iff.2 ⟨hle, List.sublistForall₂_iff.2 ⟨taken, hholds, htaken.trans hmore⟩⟩

/-- Whichever place the first predicate was given, the others have places behind the first value. -/
theorem Threads.tail (h : Threads (head :: rest) (v :: values) (m + 1)) :
    Threads rest values m := by
  obtain ⟨hle, hsublist⟩ := threads_iff.1 h
  refine threads_iff.2 ⟨Nat.le_of_succ_le_succ hle, ?_⟩
  rw [List.take_succ_cons] at hsublist
  cases hsublist with
  | cons _ hrest => exact hrest
  | cons_right hlater =>
    obtain ⟨taken, hholds, htaken⟩ := List.sublistForall₂_iff.1 hlater
    obtain ⟨first, others, _, hothers, rfl⟩ := List.forall₂_cons_left_iff.1 hholds
    have hfewer : others.Sublist values := (List.sublist_cons_self first others).trans htaken
    exact List.sublistForall₂_iff.2 ⟨others, hothers, hfewer⟩

/-- A value on which the first predicate does not hold is in nobody's place. -/
theorem Threads.of_not_holds (h : Threads (head :: rest) (v :: values) m) (hnot : ¬ head.Holds v) :
    Threads (head :: rest) values m := by
  obtain ⟨hle, hsublist⟩ := threads_iff.1 h
  refine threads_iff.2 ⟨hle, ?_⟩
  cases m with
  | zero => exact .nil
  | succ m =>
    rw [List.take_succ_cons] at hsublist ⊢
    cases hsublist with
    | cons hholds _ => exact absurd hholds hnot
    | cons_right hlater => exact hlater

/-! ## The greatest number of predicates -/

theorem isGreatest_threads_nil : IsGreatest {m | Threads sequence ([] : List V) m} 0 := by
  refine ⟨threads_zero, fun m h => ?_⟩
  obtain ⟨hle, hsublist⟩ := threads_iff.1 h
  cases m with
  | zero => exact Nat.le_refl 0
  | succ m =>
    cases sequence with
    | nil => exact hle
    | cons head rest => cases hsublist

theorem isGreatest_threads_of_empty : IsGreatest {m | Threads [] values m} 0 :=
  ⟨threads_zero, fun _ h => h.le_length⟩

/-- Nothing is lost if the first predicate takes the first value that it can. -/
theorem isGreatest_threads_cons (hholds : head.Holds v)
    (h : IsGreatest {m | Threads rest values m} n) :
    IsGreatest {m | Threads (head :: rest) (v :: values) m} (n + 1) := by
  refine ⟨Threads.cons h.1 hholds, fun m hm => ?_⟩
  cases m with
  | zero => exact Nat.zero_le _
  | succ m => exact Nat.succ_le_succ (h.2 (Threads.tail hm))

theorem isGreatest_threads_of_not_holds (hnot : ¬ head.Holds v)
    (h : IsGreatest {m | Threads (head :: rest) values m} n) :
    IsGreatest {m | Threads (head :: rest) (v :: values) m} n :=
  ⟨Threads.sublist h.1 (List.sublist_cons_self v values),
    fun _ hm => h.2 (Threads.of_not_holds hm hnot)⟩

/-! ## Runs of writes -/

theorem consumed_pastEnd (linear : Linear V) (values : List V) :
    (linear.pastEnd values).consumed = linear.consumed := by
  unfold pastEnd
  split <;> rfl

variable [Describe V]

/-- A run of writes moves the count on by as much as the values written to the queue allow. -/
theorem consumed_finalState (mode : FailureMode) (linear : Linear V) (writes : List (Form × V)) :
    ∃ last taken, Session.finalState (machine.step mode) (some linear) (writeRequests writes) =
      some last ∧ last.consumed = linear.consumed + taken ∧
        IsGreatest {m | Threads linear.remaining (writes.map Prod.snd) m} taken := by
  induction writes generalizing linear with
  | nil => exact ⟨linear, 0, rfl, rfl, isGreatest_threads_nil⟩
  | cons write later ih =>
    cases hqueue : linear.remaining with
    | nil =>
      refine ⟨_, 0, finalState_past_end hqueue mode _, ?_, isGreatest_threads_of_empty⟩
      exact consumed_pastEnd linear _
    | cons head rest =>
      obtain ⟨_, hadvance, hstay, _⟩ := next_write hqueue mode write.1 write.2
      rw [writeRequests, List.map_cons, Session.finalState_cons]
      by_cases hholds : head.Holds write.2
      · obtain ⟨last, taken, hlast, hconsumed, hgreatest⟩ := ih (linear.advance write.2 rest)
        rw [hadvance hholds]
        refine ⟨last, taken + 1, hlast, ?_, isGreatest_threads_cons hholds hgreatest⟩
        change last.consumed = linear.consumed + 1 + taken at hconsumed
        omega
      · obtain ⟨last, taken, hlast, hconsumed, hgreatest⟩ := ih linear
        rw [hqueue] at hgreatest
        rw [hstay hholds]
        exact ⟨last, taken, hlast, hconsumed, isGreatest_threads_of_not_holds hholds hgreatest⟩

theorem new_consumed_finalState (mode : FailureMode) (v₀ : V) (strictness : Strictness)
    (sequence : List (Predicate V)) (writes : List (Form × V)) :
    ∃ last, Session.finalState (machine.step mode) none
        (.new v₀ strictness sequence :: writeRequests writes) = some last ∧
      last.Follows strictness sequence ∧
      IsGreatest {m | Threads sequence (writes.map Prod.snd) m} last.consumed := by
  obtain ⟨last, taken, hlast, hconsumed, hgreatest⟩ :=
    consumed_finalState mode (new v₀ strictness sequence) writes
  obtain ⟨last', hlast', hfollows⟩ := (follows_new v₀ strictness sequence).finalState mode writes
  obtain rfl : last = last' := Option.some.inj (hlast.symm.trans hlast')
  have htaken : last.consumed = taken := hconsumed.trans (Nat.zero_add taken)
  exact ⟨last, hlast, hfollows, htaken ▸ hgreatest⟩

/-- A new linear value makes as much progress as the writes allow, however many of them are refused
or interrupted: it consumes the first `m` predicates for the greatest `m` for which they hold on
values at ascending places. A run into which further writes are inserted consumes no fewer. -/
theorem run_makes_greatest_progress (mode : FailureMode) (v₀ : V) (strictness : Strictness)
    (sequence : List (Predicate V)) (writes : List (Form × V)) :
    ∃ last, Session.finalState (machine.step mode) none
        (.new v₀ strictness sequence :: writeRequests writes) = some last ∧
      last.Follows strictness sequence ∧
      IsGreatest {m | Threads sequence (writes.map Prod.snd) m} last.consumed ∧
      ∀ more : List (Form × V), (writes.map Prod.snd).Sublist (more.map Prod.snd) →
        ∃ last', Session.finalState (machine.step mode) none
            (.new v₀ strictness sequence :: writeRequests more) = some last' ∧
          last.consumed ≤ last'.consumed := by
  obtain ⟨last, hlast, hfollows, hgreatest⟩ :=
    new_consumed_finalState mode v₀ strictness sequence writes
  refine ⟨last, hlast, hfollows, hgreatest, fun more hmore => ?_⟩
  obtain ⟨last', hlast', _, hgreatest'⟩ :=
    new_consumed_finalState mode v₀ strictness sequence more
  have hthreads : Threads sequence (more.map Prod.snd) last.consumed :=
    Threads.sublist hgreatest.1 hmore
  exact ⟨last', hlast', hgreatest'.2 hthreads⟩

/-- The first write satisfies both predicates and is taken by the first of them. The second has to
wait for a later one, and two writes that are inserted in between do it no harm. -/
theorem overlapping_predicates_make_progress :
    let short := Predicate.named "short" fun word : String => .ok (word.length < 3)
    let known := Predicate.named "known" fun word : String =>
      if word = "" then .error "no word" else .ok (word == "so" || word == "then")
    let writes := [(Form.checked, "so"), (.failFast, "then")]
    let more := [(Form.checked, "so"), (.failFast, ""), (.checked, "now"), (.failFast, "then")]
    (writes.map Prod.snd).Sublist (more.map Prod.snd) ∧
      IsGreatest {m | Threads [short, known] ["so", "then"] m} 2 ∧
      ∃ last, Session.finalState (machine.step .panic) none
          (.new "" .exact [short, known] :: writeRequests more) = some last ∧
        2 ≤ last.consumed := by
  intro short known writes more
  have hmore : (writes.map Prod.snd).Sublist (more.map Prod.snd) := by decide
  obtain ⟨last, hlast, _, hgreatest, hinsert⟩ :=
    run_makes_greatest_progress .panic "" .exact [short, known] writes
  obtain rfl : (⟨"then", [], 2, .exact⟩ : Linear String) = last := Option.some.inj hlast
  exact ⟨hmore, hgreatest, hinsert more hmore⟩

end RuntimeContracts.Linear

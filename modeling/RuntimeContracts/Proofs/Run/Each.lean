import RuntimeContracts.Run.Basic

/-!
# One run for each item of a list

`each` runs through a list in order and stops at the first item whose run does not return. Hooks,
active conditions and pending ones are all worked through in this way.
-/

namespace RuntimeContracts

/-- Either every item has the property, or the list splits at the first one that has not. -/
theorem forall_or_exists_first {α : Type} (P : α → Prop) (items : List α) :
    (∀ a ∈ items, P a) ∨
      ∃ earlier a rest, items = earlier ++ a :: rest ∧ (∀ b ∈ earlier, P b) ∧ ¬ P a := by
  induction items with
  | nil => exact .inl (by simp)
  | cons first others ih =>
    by_cases hfirst : P first
    · rcases ih with hall | ⟨earlier, a, rest, rfl, hearlier, ha⟩
      · exact .inl (by simpa [hfirst] using hall)
      · exact .inr ⟨first :: earlier, a, rest, rfl, by simpa [hfirst] using hearlier, ha⟩
    · exact .inr ⟨[], first, others, rfl, by simp, hfirst⟩

/-- A list splits in only one way at the first item without the property. -/
theorem first_unique {α : Type} {P : α → Prop} {earlier earlier' rest rest' : List α} {a a' : α}
    (hsplit : earlier ++ a :: rest = earlier' ++ a' :: rest') (hearlier : ∀ b ∈ earlier, P b)
    (hearlier' : ∀ b ∈ earlier', P b) (ha : ¬ P a) (ha' : ¬ P a') :
    earlier = earlier' ∧ a = a' := by
  induction earlier generalizing earlier' with
  | nil =>
    cases earlier' with
    | nil => exact ⟨rfl, (List.cons.inj hsplit).1⟩
    | cons b others =>
      have hb : a = b := (List.cons.inj hsplit).1
      exact absurd (hb ▸ hearlier' b List.mem_cons_self) ha
  | cons b others ih =>
    have hb : P b := hearlier b List.mem_cons_self
    cases earlier' with
    | nil =>
      have ha : b = a' := (List.cons.inj hsplit).1
      exact absurd (ha ▸ hb) ha'
    | cons b' others' =>
      obtain ⟨rfl, htail⟩ := List.cons.inj hsplit
      obtain ⟨rfl, rfl⟩ := ih htail (fun c hc => hearlier c (List.mem_cons_of_mem b hc))
        fun c hc => hearlier' c (List.mem_cons_of_mem b hc)
      exact ⟨rfl, rfl⟩

namespace Run

variable {ε α : Type}

def each (work : α → Run ε Unit) : List α → Run ε Unit
  | [] => pure ()
  | a :: rest => work a >>= fun _ => each work rest

/-- What the runs of the items leave in the trace, if all of them are run. -/
def traces (work : α → Run ε Unit) (items : List α) : Trace :=
  items.flatMap fun a => (work a).trace

theorem each_append {work : α → Run ε Unit} {earlier : List α}
    (h : ∀ a ∈ earlier, (work a).outcome = .returned ()) (rest : List α) :
    each work (earlier ++ rest) = (each work rest).after (traces work earlier) := by
  induction earlier with
  | nil => simp [traces]
  | cons a others ih =>
    have ha : (work a).outcome = .returned () := h a (by simp)
    rw [List.cons_append, each, bind_of_returned ha, ih (fun b hb => h b (by simp [hb])),
      after_after]
    simp [traces]

theorem each_of_returned {work : α → Run ε Unit} {items : List α}
    (h : ∀ a ∈ items, (work a).outcome = .returned ()) :
    each work items = ⟨traces work items, .returned ()⟩ := by
  have happ := each_append h []
  rw [List.append_nil] at happ
  rw [happ]
  ext1 <;> simp [each]

theorem each_of_stopped {work : α → Run ε Unit} {earlier rest : List α} {a : α}
    (h : ∀ b ∈ earlier, (work b).outcome = .returned ()) (ha : (work a).outcome ≠ .returned ()) :
    each work (earlier ++ a :: rest) = ⟨traces work (earlier ++ [a]), (work a).outcome⟩ := by
  have hstop : each work (a :: rest) = work a := by
    rw [each]
    cases ho : (work a).outcome with
    | returned u => exact absurd ho ha
    | refused e => rw [bind_of_refused ho, ← ho]
    | panicked text => rw [bind_of_panicked ho, ← ho]
    | aborted text => rw [bind_of_aborted ho, ← ho]
  rw [each_append h, hstop]
  ext1 <;> simp [traces]

theorem each_returned_iff {work : α → Run ε Unit} {items : List α} :
    (each work items).outcome = .returned () ↔ ∀ a ∈ items, (work a).outcome = .returned () := by
  rcases forall_or_exists_first (fun a => (work a).outcome = .returned ()) items with
    hall | ⟨earlier, a, rest, rfl, hearlier, ha⟩
  · exact iff_of_true (by rw [each_of_returned hall]) hall
  · refine iff_of_false ?_ (fun hall => ha (hall a (by simp)))
    rw [each_of_stopped hearlier ha]
    exact ha

/-- Runs for each item that do not all return end as the run of one of the items. -/
theorem exists_outcome_each {work : α → Run ε Unit} {items : List α}
    (h : (each work items).outcome ≠ .returned ()) :
    ∃ a ∈ items, (work a).outcome ≠ .returned () ∧
      (each work items).outcome = (work a).outcome := by
  rcases forall_or_exists_first (fun a => (work a).outcome = .returned ()) items with
    hall | ⟨earlier, a, rest, rfl, hearlier, ha⟩
  · exact absurd (each_returned_iff.2 hall) h
  · refine ⟨a, by simp, ha, ?_⟩
    rw [each_of_stopped hearlier ha]

end Run
end RuntimeContracts

import RuntimeContracts.Predicate.Search
import RuntimeContracts.Proofs.Run.Each

/-!
# Verdicts of predicates

An evaluation is client code and nothing else: it never refuses and never aborts. `verdict` is what
it answers and `tests` the trace that it leaves; evaluating a predicate is leaving the one and
calling the other. A search through a list of predicates ends at the first that does not hold.
-/

namespace RuntimeContracts

namespace Predicate

variable {V ε : Type}

def verdict (v : V) : Predicate V → Client Bool
  | .test t => t.test v
  | .and left right => do
    if ← left.verdict v then right.verdict v else return false
  | .negate inner => return !(← inner.verdict v)

def tests (v : V) : Predicate V → Trace
  | .test t => [.tested t.label]
  | .and left right =>
    match left.verdict v with
    | .ok true => left.tests v ++ right.tests v
    | _ => left.tests v
  | .negate inner => inner.tests v

theorem eval_eq (v : V) (p : Predicate V) :
    (p.eval v : Run ε Bool) = (Run.call (p.verdict v)).after (p.tests v) := by
  induction p with
  | test t => rfl
  | and left right ihl ihr =>
    rw [eval_and, ihl, Run.after_bind]
    cases hl : left.verdict v with
    | error text => simp [verdict, tests, hl]; rfl
    | ok b =>
      cases b with
      | false => simp [verdict, tests, hl]; rfl
      | true =>
        simp [verdict, tests, hl, ihr]
        rfl
  | negate inner ih =>
    rw [eval_negate, ih, Run.after_bind, tests]
    cases hi : inner.verdict v with
    | error text | ok b =>
      rw [verdict, hi]
      rfl

theorem mem_tests {v : V} {p : Predicate V} {entry : Entry} (h : entry ∈ p.tests v) :
    ∃ label, entry = .tested label := by
  induction p with
  | test t => exact ⟨t.label, by simpa [tests] using h⟩
  | and left right ihl ihr =>
    simp only [tests] at h
    split at h
    · rcases List.mem_append.1 h with hleft | hright
      · exact ihl hleft
      · exact ihr hright
    · exact ihl h
  | negate inner ih => exact ih h

/-- Evaluating a predicate is no event. -/
@[simp] theorem events_tests (v : V) (p : Predicate V) : Trace.events (p.tests v) = [] := by
  refine List.filterMap_eq_nil_iff.2 fun entry hmem => ?_
  obtain ⟨label, rfl⟩ := mem_tests hmem
  rfl

theorem holds_iff {p : Predicate V} {v : V} : p.Holds v ↔ p.verdict v = .ok true := by
  simp [Holds, eval_eq]

theorem fails_iff {p : Predicate V} {v : V} : p.Fails v ↔ p.verdict v = .ok false := by
  simp [Fails, eval_eq]

theorem panicsWith_iff {p : Predicate V} {v : V} {text : String} :
    p.PanicsWith v text ↔ p.verdict v = .error text := by
  simp [PanicsWith, eval_eq]

theorem not_holds_of_fails {p : Predicate V} {v : V} (h : p.Fails v) : ¬ p.Holds v := by
  rw [holds_iff, fails_iff.1 h]
  simp

theorem not_holds_of_panicsWith {p : Predicate V} {v : V} {text : String}
    (h : p.PanicsWith v text) : ¬ p.Holds v := by
  rw [holds_iff, panicsWith_iff.1 h]
  simp

theorem not_fails_of_panicsWith {p : Predicate V} {v : V} {text : String}
    (h : p.PanicsWith v text) : ¬ p.Fails v := by
  rw [fails_iff, panicsWith_iff.1 h]
  simp

instance (p : Predicate V) (v : V) : Decidable (p.Holds v) :=
  inferInstanceAs (Decidable (_ = _))

theorem holds_or_fails {p : Predicate V} {v : V} {answer : Bool} (h : p.verdict v = .ok answer) :
    p.Holds v ∨ p.Fails v := by
  cases answer with
  | true => exact .inl (holds_iff.2 h)
  | false => exact .inr (fails_iff.2 h)

/-- A predicate that does not hold fails or panics. -/
theorem fails_or_panicsWith {p : Predicate V} {v : V} (h : ¬ p.Holds v) :
    p.Fails v ∨ ∃ text, p.PanicsWith v text := by
  simp only [holds_iff, fails_iff, panicsWith_iff] at *
  cases hp : p.verdict v with
  | error text => exact .inr ⟨text, rfl⟩
  | ok b => cases b <;> simp_all

/-- How a search for a failing predicate goes: the tests that it performs and what it answers. -/
inductive Searched (v : V) :
    List (Predicate V) → Trace → Client (Option (Nat × Predicate V)) → Prop where
  | allHold {ps : List (Predicate V)} (hall : ∀ p ∈ ps, p.Holds v) :
      Searched v ps (ps.flatMap (tests v)) (.ok none)
  | fails {earlier rest : List (Predicate V)} {p : Predicate V}
      (hearlier : ∀ q ∈ earlier, q.Holds v) (hp : p.Fails v) :
      Searched v (earlier ++ p :: rest) ((earlier ++ [p]).flatMap (tests v))
        (.ok (some (earlier.length, p)))
  | panics {earlier rest : List (Predicate V)} {p : Predicate V} {text : String}
      (hearlier : ∀ q ∈ earlier, q.Holds v) (hp : p.PanicsWith v text) :
      Searched v (earlier ++ p :: rest) ((earlier ++ [p]).flatMap (tests v)) (.error text)

theorem filter_eq_nil_of_searched {v : V} {ps : List (Predicate V)} {trace : Trace}
    {found : Client (Option (Nat × Predicate V))} (h : Searched v ps trace found)
    (keep : Entry → Bool) (hkeep : ∀ label, keep (.tested label) = false) :
    trace.filter keep = [] := by
  rw [List.filter_eq_nil_iff]
  intro entry hentry
  have htested : ∃ label, entry = .tested label := by
    cases h with
    | allHold | fails | panics =>
      obtain ⟨p, _, hp⟩ := List.mem_flatMap.1 hentry
      exact mem_tests hp
  obtain ⟨label, rfl⟩ := htested
  simp [hkeep]

/-- A search is no event. -/
theorem events_of_searched {v : V} {ps : List (Predicate V)} {trace : Trace}
    {found : Client (Option (Nat × Predicate V))} (h : Searched v ps trace found) :
    trace.events = [] := by
  have hquiet : ∀ qs : List (Predicate V), Trace.events (qs.flatMap (tests v)) = [] := by
    intro qs
    induction qs with
    | nil => rfl
    | cons q rest ih =>
      rw [List.flatMap_cons, Trace.events_append, events_tests, ih, List.nil_append]
  cases h <;> exact hquiet _

theorem forall_holds_iff_of_searched {v : V} {ps : List (Predicate V)} {trace : Trace}
    {found : Client (Option (Nat × Predicate V))} (h : Searched v ps trace found) :
    (∀ p ∈ ps, p.Holds v) ↔ found = .ok none := by
  cases h with
  | allHold hall => exact iff_of_true hall rfl
  | @fails earlier rest p _ hp =>
    refine iff_of_false ?_ (by simp)
    intro hall
    simp_all [holds_iff, fails_iff]
  | @panics earlier rest p text _ hp =>
    refine iff_of_false ?_ (by simp)
    intro hall
    simp_all [holds_iff, panicsWith_iff]

theorem exists_searched (v : V) (ps : List (Predicate V)) :
    ∃ trace found, Searched v ps trace found := by
  rcases forall_or_exists_first (Holds · v) ps with hall | ⟨earlier, p, rest, rfl, hearlier, hp⟩
  · exact ⟨_, _, .allHold hall⟩
  · rcases fails_or_panicsWith hp with hp | ⟨text, hp⟩
    · exact ⟨_, _, .fails hearlier hp⟩
    · exact ⟨_, _, .panics hearlier hp⟩

theorem firstFailingFrom_append {v : V} {earlier : List (Predicate V)}
    (h : ∀ p ∈ earlier, p.Holds v) (start : Nat) (rest : List (Predicate V)) :
    (firstFailingFrom v start (earlier ++ rest) : Run ε _) =
      (firstFailingFrom v (start + earlier.length) rest).after (earlier.flatMap (tests v)) := by
  induction earlier generalizing start with
  | nil => simp
  | cons p others ih =>
    have hp : p.verdict v = .ok true := holds_iff.1 (h p (by simp))
    have hstart : start + 1 + others.length = start + (others.length + 1) := by omega
    rw [List.cons_append, firstFailingFrom_cons, eval_eq, Run.after_bind, hp]
    simp [ih (fun q hq => h q (by simp [hq])), hstart]

theorem firstFailing_eq_of_searched {v : V} {ps : List (Predicate V)} {trace : Trace}
    {found : Client (Option (Nat × Predicate V))} (h : Searched v ps trace found) :
    (firstFailing ps v : Run ε _) = (Run.call found).after trace := by
  unfold firstFailing
  cases h with
  | allHold hall =>
    have happ := firstFailingFrom_append (ε := ε) hall 0 []
    simpa using happ
  | fails hearlier hp =>
    rw [firstFailingFrom_append hearlier, firstFailingFrom_cons, eval_eq, Run.after_bind,
      fails_iff.1 hp]
    simp
  | panics hearlier hp =>
    rw [firstFailingFrom_append hearlier, firstFailingFrom_cons, eval_eq, Run.after_bind,
      panicsWith_iff.1 hp]
    simp

end Predicate
end RuntimeContracts

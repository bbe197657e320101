import RuntimeContracts.Proofs.Predicate.Verdict

/-!
# Conjunctions of lists

The conjunction of a list of predicates evaluates what a search through the list evaluates, and
holds if the search finds nothing. A search through the conjunction alone therefore performs the
same tests and ends in the same way; it only blames the conjunction for the predicate that failed.
-/

namespace RuntimeContracts.Predicate

variable {V ε : Type}

@[simp] theorem conjunction_nil (p : Predicate V) : conjunction p [] = p := rfl

@[simp] theorem conjunction_cons (p q : Predicate V) (rest : List (Predicate V)) :
    conjunction p (q :: rest) = conjunction (p.and q) rest := rfl

/-- The names of the conjuncts are joined, in order. -/
theorem name_conjunction (first : Predicate V) (rest : List (Predicate V)) :
    (conjunction first rest).name = " && ".intercalate ((first :: rest).map name) := by
  induction rest generalizing first with
  | nil => rfl
  | cons p rest ih =>
    rw [conjunction_cons, ih]
    rfl

/-- The conjunction is evaluated as the list is searched, from whatever place it is counted. -/
theorem eval_conjunction (v : V) (first : Predicate V) (rest : List (Predicate V)) (start : Nat) :
    ((conjunction first rest).eval v : Run ε Bool) =
      firstFailingFrom v start (first :: rest) >>= fun found => pure found.isNone := by
  induction rest generalizing first start with
  | nil =>
    rw [conjunction_nil, firstFailingFrom_cons, bind_assoc]
    have hanswer : ∀ b : Bool, ((if b then firstFailingFrom v (start + 1) []
        else pure (some (start, first)) : Run ε _) >>= fun found => pure found.isNone) =
          pure b := by
      intro b
      cases b <;> rfl
    simp only [hanswer, bind_pure]
  | cons p rest ih =>
    -- The places behind the first two are the same if the shorter list is counted from the next.
    rw [conjunction_cons, ih (first.and p) (start + 1)]
    simp only [firstFailingFrom_cons, eval_and, bind_assoc]
    congr 1
    funext b
    cases b with
    | true =>
      simp only [if_true, bind_assoc]
      congr 1
      funext b
      cases b <;> rfl
    | false => rfl

def FailsFirst (v : V) (ps : List (Predicate V)) (index : Nat) (p : Predicate V) : Prop :=
  ∃ earlier rest, ps = earlier ++ p :: rest ∧ earlier.length = index ∧
    (∀ q ∈ earlier, q.Holds v) ∧ p.Fails v

theorem failsFirst_of_searched {v : V} {ps : List (Predicate V)} {trace : Trace} {index : Nat}
    {p : Predicate V} (h : Searched v ps trace (.ok (some (index, p)))) :
    FailsFirst v ps index p := by
  cases h with
  | @fails earlier rest p hearlier hp => exact ⟨earlier, rest, rfl, rfl, hearlier, hp⟩

/-- What a search that found a predicate finds if the list is replaced by one predicate. -/
def blamedOn (q : Predicate V) (found : Option (Nat × Predicate V)) : Option (Nat × Predicate V) :=
  found.map fun _ => (0, q)

theorem searched_singleton_fails {v : V} {p : Predicate V} (h : p.Fails v) :
    Searched v [p] ([p].flatMap (tests v)) (.ok (some (0, p))) :=
  @Searched.fails V v [] [] p nofun h

theorem searched_singleton_panics {v : V} {p : Predicate V} {text : String}
    (h : p.PanicsWith v text) : Searched v [p] ([p].flatMap (tests v)) (.error text) :=
  @Searched.panics V v [] [] p text nofun h

/-- A search through the conjunction performs the tests of a search through the list, and finds the
conjunction where the other finds a predicate. -/
theorem searched_conjunction {v : V} {first : Predicate V} {rest : List (Predicate V)}
    {trace : Trace} {found : Client (Option (Nat × Predicate V))}
    (h : Searched v (first :: rest) trace found) :
    Searched v [conjunction first rest] trace (found.map (blamedOn (conjunction first rest))) := by
  have heval : ((conjunction first rest).eval v : Run Empty Bool) =
      (Run.call (found.map Option.isNone)).after trace := by
    have hsearch : (firstFailingFrom v 0 (first :: rest) : Run Empty _) =
        (Run.call found).after trace := firstFailing_eq_of_searched h
    rw [eval_conjunction v first rest 0, hsearch, Run.after_bind]
    cases found <;> rfl
  rw [eval_eq] at heval
  have htests : (conjunction first rest).tests v = trace := by
    simpa using congrArg Run.trace heval
  have hverdict : (Run.call ((conjunction first rest).verdict v) : Run Empty Bool).outcome =
      (Run.call (found.map Option.isNone) : Run Empty Bool).outcome := by
    simpa using congrArg Run.outcome heval
  have htrace : [conjunction first rest].flatMap (tests v) = trace := by simpa using htests
  rw [← htrace]
  cases found with
  | error text =>
    have hpanics : (conjunction first rest).verdict v = .error text :=
      Run.outcome_call_eq_panicked.1 hverdict
    exact searched_singleton_panics (panicsWith_iff.2 hpanics)
  | ok found =>
    have hanswer : (conjunction first rest).verdict v = .ok found.isNone :=
      Run.outcome_call_eq_returned.1 hverdict
    cases found with
    | none =>
      refine .allHold fun p hmem => ?_
      rw [List.mem_singleton.1 hmem]
      exact holds_iff.2 hanswer
    | some place => exact searched_singleton_fails (fails_iff.2 hanswer)

end RuntimeContracts.Predicate

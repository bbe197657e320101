import RuntimeContracts.Call.Session
import RuntimeContracts.Proofs.Call.Pipeline
import RuntimeContracts.Proofs.Constrained.Commits
import RuntimeContracts.Proofs.Predicate.Conjunction
import RuntimeContracts.Proofs.Run.Retelling

/-!
# Lists and conjunctions gate alike

It makes no difference to a contract whether predicates guard it one by one or by their
conjunction, except in what it is told when they reject something: the first predicate that failed,
or the conjunction. This holds of constrained values and of both lists of a contracted call.
-/

namespace RuntimeContracts

open Session (turns)

/-- A refusal comes from the work and not from the cleanup. -/
theorem Run.refused_of_cleanedUpBy {ε α : Type} {work : Run ε α} {cleanup : Run Empty Unit} {e : ε}
    (h : (work.cleanedUpBy cleanup).outcome = .refused e) : work.outcome = .refused e := by
  obtain ⟨trace, outcome⟩ := work
  cases outcome with
  | aborted text => cases h
  | returned a | refused e' | panicked text =>
    change Outcome.afterCleanup _ cleanup.outcome = _ at h
    match hcleanup : cleanup.outcome with
    | .returned () =>
      rw [hcleanup] at h
      exact h
    | .panicked text | .aborted text =>
      rw [hcleanup] at h
      cases h

namespace Predicate

variable {V ε : Type}

def gate (event : Nat → String → Event) (error : Nat → String → ε) (ps : List (Predicate V))
    (v : V) : Run ε Unit := do
  match ← firstFailing ps v with
  | none => pure ()
  | some (index, p) =>
    Run.report (event index p.name)
    Run.refuse (error index p.name)

variable {event : Nat → String → Event} {error : Nat → String → ε}

theorem gate_of_searched {v : V} {ps : List (Predicate V)} {trace : Trace}
    {found : Client (Option (Nat × Predicate V))} (h : Searched v ps trace found) :
    gate event error ps v = match found with
      | .error text => ⟨trace, .panicked text⟩
      | .ok none => ⟨trace, .returned ()⟩
      | .ok (some (index, p)) =>
        ⟨trace ++ [.reported (event index p.name)], .refused (error index p.name)⟩ := by
  rw [gate, firstFailing_eq_of_searched h, Run.after_bind]
  match found with
  | .error text => ext1 <;> simp
  | .ok none => ext1 <;> simp
  | .ok (some (index, p)) => rfl

/-- What a gate tells, it tells at its end. -/
theorem retold_gate (tell : Retelling ε) (ps : List (Predicate V)) (v : V) :
    (gate event error ps v).retold tell =
      gate (fun index name => tell.event (event index name))
        (fun index name => tell.error (error index name)) ps v := by
  obtain ⟨trace, found, hsearched⟩ := exists_searched v ps
  have hquiet := Trace.retold_of_quiet (events_of_searched hsearched) tell.event
  rw [gate_of_searched hsearched, gate_of_searched hsearched]
  match found with
  | .error text => exact Run.ext hquiet rfl
  | .ok none => exact Run.ext hquiet rfl
  | .ok (some (index, p)) =>
    refine Run.ext ?_ rfl
    change Trace.retold tell.event (trace ++ [_]) = trace ++ [_]
    rw [Trace.retold_append, hquiet]
    rfl

/-- The gate of the conjunction is that of the list, if the conjunction is always to blame. -/
theorem gate_conjunction (first : Predicate V) (rest : List (Predicate V)) (v : V) :
    gate event error [conjunction first rest] v =
      gate (fun _ _ => event 0 (conjunction first rest).name)
        (fun _ _ => error 0 (conjunction first rest).name) (first :: rest) v := by
  obtain ⟨trace, found, hsearched⟩ := exists_searched v (first :: rest)
  rw [gate_of_searched hsearched, gate_of_searched (searched_conjunction hsearched)]
  match found with
  | .error text => rfl
  | .ok none => rfl
  | .ok (some (index, p)) => rfl

end Predicate

namespace Constrained

variable {V : Type}

def blaming (name : String) : Retelling Violation where
  event := id
  error
    | .construction wrapper _ value => .construction wrapper name value
    | .constraintUnsatisfied _ value => .constraintUnsatisfied name value
    | e => e

inductive Blames [Describe V] (ps : List (Predicate V)) : Request V → Violation → Prop where
  | creation (form : Form) {v : V} {index : Nat} {p : Predicate V}
      (hfirst : Predicate.FailsFirst v ps index p) :
      Blames ps (.create form v ps) (.construction .constrained p.name (describe v))
  | write (form : Form) {v : V} {index : Nat} {p : Predicate V}
      (hfirst : Predicate.FailsFirst v ps index p) :
      Blames ps (.write form v) (.constraintUnsatisfied p.name (describe v))

/-- The value is the same behind the two lists of constraints, or missing behind both. -/
def SameValue (ps qs : List (Predicate V)) (first second : Option (Constrained V)) : Prop :=
  first = none ∧ second = none ∨ ∃ v, first = some ⟨v, ps⟩ ∧ second = some ⟨v, qs⟩

variable [Describe V]

theorem create_of_searched {v : V} {ps : List (Predicate V)} {trace : Trace}
    {found : Client (Option (Nat × Predicate V))} (h : Predicate.Searched v ps trace found) :
    create v ps = ⟨trace, match found with
      | .error text => .panicked text
      | .ok none => .returned ⟨v, ps⟩
      | .ok (some (_, p)) => .refused (.construction .constrained p.name (describe v))⟩ := by
  rw [create, Predicate.firstFailing_eq_of_searched h, Run.after_bind]
  rcases found with text | _ | ⟨index, p⟩
  · ext1 <;> simp
  · ext1 <;> simp
  · ext1 <;> simp

theorem write_of_searched {x v : V} {ps : List (Predicate V)} {trace : Trace}
    {found : Client (Option (Nat × Predicate V))} (h : Predicate.Searched v ps trace found) :
    write ⟨x, ps⟩ v = match found with
      | .error text => ⟨trace, .panicked text⟩
      | .ok none => ⟨trace ++ [.reported (.writeCommitted (describe v))], .returned ⟨v, ps⟩⟩
      | .ok (some (_, p)) => ⟨trace, .refused (.constraintUnsatisfied p.name (describe v))⟩ := by
  rw [write, Predicate.firstFailing_eq_of_searched h, Run.after_bind]
  rcases found with text | _ | ⟨index, p⟩
  · ext1 <;> simp
  · rfl
  · ext1 <;> simp

theorem attempt_create (form : Form) (v : V) (ps : List (Predicate V))
    (guarded? : Option (Constrained V)) :
    attempt (.create form v ps) guarded? = ((create v ps).outcome.value?,
      ⟨(create v ps).trace, (create v ps).outcome.map fun _ => some .done⟩) := by
  have hact : attempt (.create form v ps) guarded? =
      (Act.set none >>= fun _ => Act.lift (create v ps) >>= fun guarded =>
        Act.set (some guarded) >>= fun _ => pure (some Reply.done)) guarded? := rfl
  rw [hact, Act.set_bind, Act.lift_bind_set, Option.or_none]

variable {first : Predicate V} {rest : List (Predicate V)}

variable (first rest) in
/-- A creation behind the conjunction goes as one behind the list. -/
theorem attempt_create_conjunction (form : Form) (v : V) (guarded? : Option (Constrained V)) :
    let listed := attempt (.create form v (first :: rest)) guarded?
    let joined := attempt (.create form v [.conjunction first rest]) guarded?
    joined.2 = listed.2.retold (blaming (Predicate.conjunction first rest).name) ∧
      (∀ e, listed.2.outcome = .refused e →
        Blames (first :: rest) (.create form v (first :: rest)) e) ∧
      SameValue (first :: rest) [.conjunction first rest] listed.1 joined.1 := by
  obtain ⟨trace, found, hlisted⟩ := Predicate.exists_searched v (first :: rest)
  have hjoined := Predicate.searched_conjunction hlisted
  have hquiet := Trace.retold_of_quiet (Predicate.events_of_searched hlisted) id
  intro listed joined
  simp only [listed, joined, attempt_create, create_of_searched hlisted,
    create_of_searched hjoined]
  match found with
  | .error text => exact ⟨Run.ext hquiet.symm rfl, nofun, .inl ⟨rfl, rfl⟩⟩
  | .ok none => exact ⟨Run.ext hquiet.symm rfl, nofun, .inr ⟨v, rfl, rfl⟩⟩
  | .ok (some (index, p)) =>
    refine ⟨Run.ext hquiet.symm rfl, fun e he => ?_, .inl ⟨rfl, rfl⟩⟩
    cases he
    exact .creation form (Predicate.failsFirst_of_searched hlisted)

/-- A write behind the conjunction goes as one behind the list. -/
theorem attempt_write_conjunction (form : Form) (v : V)
    {guarded? guarded?' : Option (Constrained V)}
    (h : SameValue (first :: rest) [.conjunction first rest] guarded? guarded?') :
    let listed := attempt (.write form v) guarded?
    let joined := attempt (.write form v) guarded?'
    joined.2 = listed.2.retold (blaming (Predicate.conjunction first rest).name) ∧
      (∀ e, listed.2.outcome = .refused e → Blames (first :: rest) (.write form v) e) ∧
      SameValue (first :: rest) [.conjunction first rest] listed.1 joined.1 := by
  rcases h with ⟨rfl, rfl⟩ | ⟨x, rfl, rfl⟩
  · exact ⟨rfl, nofun, .inl ⟨rfl, rfl⟩⟩
  obtain ⟨trace, found, hlisted⟩ := Predicate.exists_searched v (first :: rest)
  have hjoined := Predicate.searched_conjunction hlisted
  have hquiet := Trace.retold_of_quiet (Predicate.events_of_searched hlisted) id
  intro listed joined
  simp only [listed, joined, attempt_write_some, write_of_searched hlisted,
    write_of_searched hjoined]
  match found with
  | .error text => exact ⟨Run.ext hquiet.symm rfl, nofun, .inr ⟨x, rfl, rfl⟩⟩
  | .ok none =>
    refine ⟨Run.ext ?_ rfl, nofun, .inr ⟨v, rfl, rfl⟩⟩
    change trace ++ [_] = Trace.retold id (trace ++ [_])
    rw [Trace.retold_append, hquiet]
    rfl
  | .ok (some (index, p)) =>
    refine ⟨Run.ext hquiet.symm rfl, fun e he => ?_, .inr ⟨x, rfl, rfl⟩⟩
    cases he
    exact .write form (Predicate.failsFirst_of_searched hlisted)

theorem toldAlike_conjunction (mode : FailureMode) (form : Form) (v₀ : V)
    (writes : List (Form × V)) :
    List.Forall₂ (machine.ToldAlike (blaming (Predicate.conjunction first rest).name)
        (Blames (first :: rest)) (SameValue (first :: rest) [.conjunction first rest]))
      (turns (machine.step mode) none (.create form v₀ (first :: rest) :: writeRequests writes))
      (turns (machine.step mode) none
        (.create form v₀ [.conjunction first rest] :: writeRequests writes)) := by
  have hform : machine.form (.create form v₀ [.conjunction first rest]) =
      machine.form (.create form v₀ (first :: rest)) := rfl
  obtain ⟨htold, hblames, hsame⟩ := attempt_create_conjunction first rest form v₀ none
  refine machine.toldAlike_cons mode hform htold hblames hsame ?_
  refine machine.toldAlike_of_related (P := fun request => ∃ form v, request = .write form v)
    ?_ mode ?_ hsame
  · rintro _ s s' ⟨form, v, rfl⟩ hs
    exact attempt_write_conjunction form v hs
  · intro request hmem
    obtain ⟨write, _, rfl⟩ := List.mem_map.1 hmem
    exact ⟨write.1, write.2, rfl⟩

end Constrained

namespace Hook

variable {A ε : Type} [Describe A]

theorem events_runAll (phase : HookPhase) (args : A) (hooks : List (Hook A)) :
    (runAll phase args hooks : Run ε Unit).trace.events = [] := by
  obtain ⟨trace, finish, hperformed⟩ := exists_performed phase args hooks
  rw [runAll_eq_of_performed hperformed]
  refine List.filterMap_eq_nil_iff.2 fun e hmem => ?_
  rw [Run.trace_after, Run.trace_call, List.append_nil] at hmem
  obtain ⟨hook, rfl⟩ := exists_entry_of_performed hperformed hmem
  rfl

/-- Hooks report nothing and refuse nothing. -/
theorem retold_runAll (tell : Retelling ε) (phase : HookPhase) (args : A) (hooks : List (Hook A)) :
    (runAll phase args hooks : Run ε Unit).retold tell = runAll phase args hooks := by
  refine Run.retold_eq_self (Trace.retold_of_quiet (events_runAll phase args hooks) _) ?_
  obtain ⟨trace, finish, hperformed⟩ := exists_performed phase args hooks
  rw [runAll_eq_of_performed hperformed]
  cases finish <;> nofun

end Hook

namespace CallContract

variable {A R ε : Type}

/-- Blames the precondition of the name, and counts it as the first. -/
def blamingPrecondition (name : String) : Retelling (CallError ε) where
  event
    | .preconditionRejected .. => .preconditionRejected 0 name
    | event => event
  error
    | .precondition .. => .precondition 0 name
    | e => e

def blamingPostcondition (name : String) : Retelling (CallError ε) where
  event
    | .postconditionRejected .. => .postconditionRejected 0 name
    | event => event
  error
    | .postcondition .. => .postcondition 0 name
    | e => e

def BlamesPrecondition (ps : List (Predicate A)) : Request A R ε → CallError ε → Prop
  | .invoke _ args, .precondition index name =>
    ∃ p, Predicate.FailsFirst args ps index p ∧ name = p.name
  | _, _ => True

def BlamesPostcondition (target : A → Client (Except ε R)) (ps : List (Predicate R)) :
    Request A R ε → CallError ε → Prop
  | .invoke _ args, .postcondition index name =>
    ∃ result p, target args = .ok (.ok result) ∧ Predicate.FailsFirst result ps index p ∧
      name = p.name
  | _, _ => True

def callRequests (calls : List (Form × A)) : List (Request A R ε) :=
  calls.map fun call => .invoke call.1 call.2

theorem checkArguments_eq_gate (contract : CallContract A R ε) (args : A) :
    contract.checkArguments args =
      Predicate.gate .preconditionRejected .precondition contract.preconditions args := rfl

theorem checkResult_eq_gate (contract : CallContract A R ε) (result : R) :
    contract.checkResult result =
      Predicate.gate .postconditionRejected .postcondition contract.postconditions result := rfl

variable [Describe A]

theorem retold_callTarget (contract : CallContract A R ε) (args : A)
    {tell : Retelling (CallError ε)}
    (h : ∀ error, tell.error (.target error) = .target error) :
    (contract.callTarget args).retold tell = contract.callTarget args := by
  rw [callTarget_eq]
  refine Run.retold_eq_self rfl fun e he => ?_
  match htarget : contract.target args with
  | .error text => simp [htarget] at he
  | .ok (.ok result) => simp [htarget] at he
  | .ok (.error error) =>
    obtain rfl : CallError.target error = e := by simpa [htarget] using he
    exact h error

/-- A call behind the conjunction of its preconditions goes as one behind their list. -/
theorem invoke_requiring_conjunction (contract : CallContract A R ε) (first : Predicate A)
    (rest : List (Predicate A)) (args : A) :
    invoke { contract with preconditions := [.conjunction first rest] } args =
      (invoke { contract with preconditions := first :: rest } args).retold
        (blamingPrecondition (Predicate.conjunction first rest).name) := by
  have htarget : ∀ ps, (callTarget { contract with preconditions := ps } args).retold
      (blamingPrecondition (Predicate.conjunction first rest).name) =
        callTarget { contract with preconditions := ps } args :=
    fun ps => retold_callTarget _ args fun _ => rfl
  rw [invoke, invoke, Run.retold_cleanedUpBy _ (Hook.events_runAll .after args _)]
  simp only [guardedCall, Run.retold_bind, Hook.retold_runAll, checkArguments_eq_gate,
    checkResult_eq_gate, Predicate.gate_conjunction, Predicate.retold_gate, htarget]
  rfl

/-- A call whose result is checked by the conjunction of its postconditions goes as one whose result
is checked by their list. -/
theorem invoke_ensuring_conjunction (contract : CallContract A R ε) (first : Predicate R)
    (rest : List (Predicate R)) (args : A) :
    invoke { contract with postconditions := [.conjunction first rest] } args =
      (invoke { contract with postconditions := first :: rest } args).retold
        (blamingPostcondition (Predicate.conjunction first rest).name) := by
  have htarget : ∀ ps, (callTarget { contract with postconditions := ps } args).retold
      (blamingPostcondition (Predicate.conjunction first rest).name) =
        callTarget { contract with postconditions := ps } args :=
    fun ps => retold_callTarget _ args fun _ => rfl
  rw [invoke, invoke, Run.retold_cleanedUpBy _ (Hook.events_runAll .after args _)]
  simp only [guardedCall, Run.retold_bind, Hook.retold_runAll, checkArguments_eq_gate,
    checkResult_eq_gate, Predicate.gate_conjunction, Predicate.retold_gate, htarget]
  rfl

theorem works_of_invoke_refused {contract : CallContract A R ε} {args : A} {e : CallError ε}
    (h : (contract.invoke args).outcome = .refused e) :
    ∃ trace, contract.Works args ⟨trace, .refused e⟩ := by
  obtain ⟨work, hwork⟩ := contract.exists_works args
  rw [invoke, guardedCall_eq_of_works hwork] at h
  refine ⟨work.trace, ?_⟩
  rw [← Run.refused_of_cleanedUpBy h]
  exact hwork

theorem blamesPrecondition_of_invoke {contract : CallContract A R ε} {args : A} {e : CallError ε}
    (h : (contract.invoke args).outcome = .refused e) (form : Form) :
    BlamesPrecondition contract.preconditions (.invoke form args : Request A R ε) e := by
  obtain ⟨trace, hworks⟩ := works_of_invoke_refused h
  cases hworks with
  | preconditionFails hbefore hchecks =>
    exact ⟨_, Predicate.failsFirst_of_searched hchecks, rfl⟩
  | targetFails | postconditionFails => trivial

theorem blamesPostcondition_of_invoke {contract : CallContract A R ε} {args : A} {e : CallError ε}
    (h : (contract.invoke args).outcome = .refused e) (form : Form) :
    BlamesPostcondition contract.target contract.postconditions (.invoke form args) e := by
  obtain ⟨trace, hworks⟩ := works_of_invoke_refused h
  cases hworks with
  | postconditionFails hbefore hchecks htarget hafter =>
    exact ⟨_, _, htarget, Predicate.failsFirst_of_searched hafter, rfl⟩
  | targetFails | preconditionFails => trivial

theorem attempt_invoke_some (form : Form) (args : A) (contract : CallContract A R ε) :
    attempt (.invoke form args) (some contract) = (some contract,
      ⟨(contract.invoke args).trace,
        (contract.invoke args).outcome.map fun result => some (.value result)⟩) := by
  have hact : attempt (.invoke form args) (some contract) =
      ((Act.lift (contract.invoke args) >>= fun result => pure (Reply.value result)) >>=
        fun reply => pure (some reply)) (some contract) := rfl
  rw [hact, Act.bind_pure_apply, Act.bind_pure_apply, Act.lift_apply]
  cases (contract.invoke args).outcome <;> rfl

def Same (contract joined : CallContract A R ε) (s s' : Option (CallContract A R ε)) : Prop :=
  s = some contract ∧ s' = some joined

/-- If single calls on two contracts are told alike, so are all sessions of calls. -/
theorem toldAlike_of_invoke [ToString ε] {contract joined : CallContract A R ε}
    {tell : Retelling (CallError ε)} {blames : Request A R ε → CallError ε → Prop}
    (htold : ∀ args, joined.invoke args = (contract.invoke args).retold tell)
    (hblames : ∀ form args e, (contract.invoke args).outcome = .refused e →
      blames (.invoke form args) e) (mode : FailureMode) (calls : List (Form × A)) :
    List.Forall₂ (machine.ToldAlike tell blames (Same contract joined))
      (turns (machine.step mode) (some contract) (callRequests calls))
      (turns (machine.step mode) (some joined) (callRequests calls)) := by
  refine machine.toldAlike_of_related
    (P := fun request => ∃ form args, request = .invoke form args) ?_ mode ?_ ⟨rfl, rfl⟩
  · rintro _ s s' ⟨form, args, rfl⟩ ⟨rfl, rfl⟩
    change (attempt (.invoke form args) (some joined)).2 =
      (attempt (.invoke form args) (some contract)).2.retold tell ∧
        (∀ e, (attempt (.invoke form args) (some contract)).2.outcome = .refused e → _) ∧
          Same contract joined (attempt (.invoke form args) (some contract)).1
            (attempt (.invoke form args) (some joined)).1
    rw [attempt_invoke_some, attempt_invoke_some, htold args]
    refine ⟨Run.ext rfl ?_, fun e he => ?_, rfl, rfl⟩
    · simp only [Run.retold]
      cases (contract.invoke args).outcome <;> rfl
    · exact hblames form args e (Outcome.map_eq_refused_iff.1 he)
  · intro request hmem
    obtain ⟨call, _, rfl⟩ := List.mem_map.1 hmem
    exact ⟨call.1, call.2, rfl⟩

end CallContract

/-- A list of predicates and its conjunction, whose name joins their names, gate alike. In any form
and mode, a constrained value behind the one is created, refused or interrupted as behind the other,
takes the same writes and holds the same value after each; and calls behind the one as preconditions
or as postconditions go as behind the other. All runs perform the same tests, hooks and targets in
the same order and end alike, except that what is refused because of the first predicate that failed
is refused because of the conjunction. -/
theorem conjunction_gates_alike {V A R ε : Type} [Describe V] [Describe A] [ToString ε]
    (first : Predicate V) (rest : List (Predicate V)) (mode : FailureMode) :
    let ps := first :: rest
    let q := Predicate.conjunction first rest
    q.name = " && ".intercalate (ps.map Predicate.name) ∧
      (∀ form v₀ writes, List.Forall₂
        (Constrained.machine.ToldAlike (Constrained.blaming q.name) (Constrained.Blames ps)
          (Constrained.SameValue ps [q]))
        (turns (Constrained.machine.step mode) none
          (.create form v₀ ps :: Constrained.writeRequests writes))
        (turns (Constrained.machine.step mode) none
          (.create form v₀ [q] :: Constrained.writeRequests writes))) ∧
      (∀ (contract : CallContract V R ε) calls,
        let listed := { contract with preconditions := ps }
        let joined := { contract with preconditions := [q] }
        List.Forall₂ (CallContract.machine.ToldAlike (CallContract.blamingPrecondition q.name)
            (CallContract.BlamesPrecondition ps) (CallContract.Same listed joined))
          (turns (CallContract.machine.step mode) (some listed) (CallContract.callRequests calls))
          (turns (CallContract.machine.step mode) (some joined)
            (CallContract.callRequests calls))) ∧
      ∀ (contract : CallContract A V ε) calls,
        let listed := { contract with postconditions := ps }
        let joined := { contract with postconditions := [q] }
        List.Forall₂ (CallContract.machine.ToldAlike (CallContract.blamingPostcondition q.name)
            (CallContract.BlamesPostcondition contract.target ps)
            (CallContract.Same listed joined))
          (turns (CallContract.machine.step mode) (some listed) (CallContract.callRequests calls))
          (turns (CallContract.machine.step mode) (some joined)
            (CallContract.callRequests calls)) := by
  intro ps q
  refine ⟨Predicate.name_conjunction first rest, ?_, ?_, ?_⟩
  · intro form v₀ writes
    exact Constrained.toldAlike_conjunction mode form v₀ writes
  · intro contract calls
    apply CallContract.toldAlike_of_invoke (contract.invoke_requiring_conjunction first rest)
    intro form args e hrefused
    exact CallContract.blamesPrecondition_of_invoke hrefused form
  · intro contract calls
    apply CallContract.toldAlike_of_invoke (contract.invoke_ensuring_conjunction first rest)
    intro form args e hrefused
    exact CallContract.blamesPostcondition_of_invoke hrefused form

end RuntimeContracts

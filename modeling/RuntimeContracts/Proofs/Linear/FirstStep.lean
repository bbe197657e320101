import RuntimeContracts.Proofs.Linear.Sequence

/-!
# The first step of a sequence

There are two ways to take the first step: to enter through the head of the sequence, or to start
with any value and write. Both leave the test to the head and blame it in their own words when it
fails, and both make the same linear value when it holds. Only an empty sequence has no first step,
and there entering is starting.
-/

namespace RuntimeContracts.Linear

variable {V : Type}

/-- What entering and a first write of the value answer, by the verdict of the head. -/
inductive FirstStep [Describe V] (strictness : Strictness) (head : Predicate V)
    (rest : List (Predicate V)) (v : V) :
    Outcome Violation (Linear V) → Outcome Violation (Linear V) → Prop where
  | taken (hholds : head.Holds v) :
      FirstStep strictness head rest v (.returned ⟨v, rest, 1, strictness⟩)
        (.returned ⟨v, rest, 1, strictness⟩)
  | refused (hfails : head.Fails v) :
      FirstStep strictness head rest v
        (.refused (.construction .linear head.name (describe v)))
        (.refused (.sequenceStepUnsatisfied 0 head.name (describe v)))
  | interrupted {text : String} (hpanics : head.PanicsWith v text) :
      FirstStep strictness head rest v (.panicked text) (.panicked text)

variable [Describe V] {strictness : Strictness} {head : Predicate V} {rest : List (Predicate V)}
  {v : V} {linear : Linear V}

/-- Entering and writing first are answered by the same head. -/
theorem firstStep_enter_write (v w : V) (strictness : Strictness) (head : Predicate V)
    (rest : List (Predicate V)) : FirstStep strictness head rest v
      (enter v strictness (head :: rest)).outcome
      ((new w strictness (head :: rest)).write v).outcome := by
  have hends := write_ends (new w strictness (head :: rest)) v
  rw [enter_cons]
  generalize (new w strictness (head :: rest)).write v = run at hends
  cases hends with
  | advanced hqueue hholds =>
    obtain ⟨rfl, rfl⟩ := List.cons.inj hqueue
    rw [Predicate.holds_iff.1 hholds]
    exact .taken hholds
  | refused hqueue hfails =>
    obtain ⟨rfl, rfl⟩ := List.cons.inj hqueue
    rw [Predicate.fails_iff.1 hfails]
    exact .refused hfails
  | interrupted hqueue hpanics =>
    obtain ⟨rfl, rfl⟩ := List.cons.inj hqueue
    rw [Predicate.panicsWith_iff.1 hpanics]
    exact .interrupted hpanics
  | frozen hqueue => cases hqueue
  | unchecked hqueue => cases hqueue

theorem FirstStep.written_eq {entered written : Outcome Violation (Linear V)}
    (h : FirstStep strictness head rest v entered written)
    (hentered : entered = .returned linear) : written = .returned linear := by
  cases h with
  | taken hholds => exact hentered
  | refused hfails => cases hentered
  | interrupted hpanics => cases hentered

/-- The two ways blame the same predicate and the same value: one for a construction, the other for
an access. -/
theorem FirstStep.kinds {entered written : Outcome Violation (Linear V)}
    (h : FirstStep strictness head rest v entered written) {e e' : Violation}
    (hentered : entered = .refused e) (hwritten : written = .refused e') :
    e.kind = .construction ∧ e'.kind = .access := by
  cases h with
  | taken hholds => cases hentered
  | refused hfails =>
    cases hentered
    cases hwritten
    exact ⟨rfl, rfl⟩
  | interrupted hpanics => cases hentered

/-! ## The sessions that go on from there -/

theorem step_enter {sequence : List (Predicate V)}
    (h : (enter v strictness sequence).outcome = .returned linear) (mode : FailureMode)
    (form : Form) (object? : Option (Linear V)) :
    machine.step mode (.enter form v strictness sequence) object? =
      (some linear, ⟨(enter v strictness sequence).trace, .returned (some .done)⟩) := by
  refine machine.step_of_returned mode ?_
  change attempt (.enter form v strictness sequence) none = _
  rw [Opening.attempt_enter, h]
  rfl

theorem step_write_returned {written : Linear V} (h : (linear.write v).outcome = .returned written)
    (mode : FailureMode) (form : Form) :
    machine.step mode (.write form v) (some linear) =
      (some written, ⟨(linear.write v).trace, .returned (some .done)⟩) := by
  refine machine.step_of_returned mode ?_
  change attempt (.write form v) (some linear) = _
  rw [attempt_write_some, h]
  rfl

/-- Behind a successful entry the session goes on with the value that entered. -/
theorem session_behind_entry {sequence : List (Predicate V)}
    (h : (enter v strictness sequence).outcome = .returned linear) (mode : FailureMode)
    (form : Form) (object? : Option (Linear V)) (requests : List (Request V)) :
    (machine.session mode object? (.enter form v strictness sequence :: requests)).drop 1 =
      machine.session mode (some linear) requests := by
  rw [Machine.session, Session.reports_cons, step_enter h]
  rfl

/-- Behind a successful first write the session goes on with the value that was written. -/
theorem session_behind_first_write {w : V} {sequence : List (Predicate V)}
    (h : ((new w strictness sequence).write v).outcome = .returned linear) (mode : FailureMode)
    (form : Form) (object? : Option (Linear V)) (requests : List (Request V)) :
    (machine.session mode object?
        (.new w strictness sequence :: .write form v :: requests)).drop 2 =
      machine.session mode (some linear) requests := by
  have hnew : machine.step mode (.new w strictness sequence) object? =
      (some (new w strictness sequence), pure (some .done)) := rfl
  rw [Machine.session, Session.reports_cons, hnew, Session.reports_cons, step_write_returned h]
  rfl

/-- Entering a sequence with a value and starting it with any other to write the value first come
to the same: they succeed, are refused or are interrupted together, blame the same predicate and
value, and make the same linear value, from which every session goes on alike. Entering an empty
sequence always succeeds, also an exact one, to which the value could not be written. -/
theorem entering_agrees_with_first_write (v w : V) (strictness : Strictness) :
    (∀ head rest,
      let sequence := head :: rest
      let entered := (enter v strictness sequence).outcome
      let written := ((new w strictness sequence).write v).outcome
      FirstStep strictness head rest v entered written ∧
        (∀ e e', entered = .refused e → written = .refused e' →
          e.kind = .construction ∧ e'.kind = .access) ∧
        ∀ linear, entered = .returned linear → written = .returned linear ∧
          ∀ mode form form' object? object?' requests,
            (machine.session mode object?
                (.enter form v strictness sequence :: requests)).drop 1 =
              (machine.session mode object?'
                (.new w strictness sequence :: .write form' v :: requests)).drop 2) ∧
      enter v strictness [] = pure (new v strictness []) ∧
      (new w .exact []).write v = Run.refuse (.sequenceExhausted (describe v)) := by
  refine ⟨fun head rest => ?_, rfl, rfl⟩
  intro sequence entered written
  have hfirst : FirstStep strictness head rest v entered written :=
    firstStep_enter_write v w strictness head rest
  refine ⟨hfirst, fun e e' => hfirst.kinds, fun linear hentered => ?_⟩
  have hwritten : written = .returned linear := hfirst.written_eq hentered
  refine ⟨hwritten, fun mode form form' object? object?' requests => ?_⟩
  rw [session_behind_entry hentered, session_behind_first_write hwritten]

/-- A short word takes the first step in either way, and a long one is blamed in two ways. -/
theorem words_take_first_step :
    let short := Predicate.named "short" fun word : String => .ok (word.length < 3)
    let long := Predicate.named "long" fun word : String => .ok (3 ≤ word.length)
    let entered := fun word => (enter word .exact [short, long]).outcome
    let written := fun word => ((new "" .exact [short, long]).write word).outcome
    let later := [Request.write .checked "no", .write .failFast "maybe", .read]
    entered "so" = .returned ⟨"so", [long], 1, .exact⟩ ∧
      written "so" = .returned ⟨"so", [long], 1, .exact⟩ ∧
      (machine.session .panic none (.enter .failFast "so" .exact [short, long] :: later)).drop 1 =
        (machine.session .panic none
          (.new "" .exact [short, long] :: .write .checked "so" :: later)).drop 2 ∧
      ∃ e e', entered "perhaps" = .refused e ∧ written "perhaps" = .refused e' ∧
        e.kind = .construction ∧ e'.kind = .access := by
  intro short long entered written later
  have hentered : entered "so" = .returned ⟨"so", [long], 1, .exact⟩ := rfl
  obtain ⟨_, _, htaken⟩ := (entering_agrees_with_first_write "so" "" .exact).1 short [long]
  obtain ⟨hwritten, hsessions⟩ := htaken ⟨"so", [long], 1, .exact⟩ hentered
  obtain ⟨_, hkinds, _⟩ := (entering_agrees_with_first_write "perhaps" "" .exact).1 short [long]
  refine ⟨hentered, hwritten, hsessions .panic .failFast .checked none none later, ?_⟩
  exact ⟨_, _, rfl, rfl, hkinds _ _ rfl rfl⟩

end RuntimeContracts.Linear

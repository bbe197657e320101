import RuntimeContracts.Proofs.Run.Live
import RuntimeContracts.Proofs.Session.Gating

/-!
# The order of configuration is not observed

A contract is its registrations of each kind, in order, and the target that was installed last.
Nothing else of the requests that led to it is left in it: neither how registrations of different
kinds were interleaved, nor the targets that were replaced, nor the calls that were made meanwhile,
whether they returned, were refused or panicked. So sessions that configured their contracts alike
go on alike.
-/

namespace RuntimeContracts

namespace Session

variable {σ ρ ε α : Type} {step : ρ → Act σ ε α}

/-- A session whose runs are all live goes on from the state that it has reached. -/
theorem reports_append {s : σ} {earlier : List ρ}
    (h : ∀ report ∈ reports step s earlier, report.run.Live) (later : List ρ) :
    reports step s (earlier ++ later) =
      reports step s earlier ++ reports step (finalState step s earlier) later := by
  induction earlier generalizing s with
  | nil => rfl
  | cons request rest ih =>
    rw [reports_cons, List.forall_mem_cons] at h
    obtain ⟨hlive, hrest⟩ := h
    have hgoes : (step request s).2.outcome.isAborted = false := hlive
    rw [hgoes] at hrest
    rw [List.cons_append, reports_cons, reports_cons, hgoes, finalState_cons]
    exact congrArg (List.cons _) (ih hrest)

end Session

namespace CallContract

variable {A R ε : Type}

inductive Kind where
  | beforeHook
  | afterHook
  | precondition
  | postcondition
deriving DecidableEq

def Request.kind? : Request A R ε → Option Kind
  | .addBefore _ => some .beforeHook
  | .addAfter _ => some .afterHook
  | .require _ => some .precondition
  | .ensure _ => some .postcondition
  | _ => none

def Request.target? : Request A R ε → Option (A → Client (Except ε R))
  | .new target | .withTarget target => some target
  | .newTotal target => some fun args => .ok <$> target args
  | _ => none

def Request.makes : Request A R ε → Bool
  | .new _ | .newTotal _ => true
  | _ => false

def MakesOne : List (Request A R ε) → Prop
  | [] => False
  | opening :: steps => opening.makes = true ∧ ∀ request ∈ steps, request.makes = false

def ofKind (kind : Kind) (requests : List (Request A R ε)) : List (Request A R ε) :=
  requests.filter fun request => request.kind? = some kind

theorem ofKind_append (kind : Kind) (earlier later : List (Request A R ε)) :
    ofKind kind (earlier ++ later) = ofKind kind earlier ++ ofKind kind later :=
  List.filter_append earlier later

def lastTarget? (requests : List (Request A R ε)) : Option (A → Client (Except ε R)) :=
  (requests.filterMap Request.target?).getLast?

theorem lastTarget?_append (earlier later : List (Request A R ε)) :
    lastTarget? (earlier ++ later) = (lastTarget? later).or (lastTarget? earlier) := by
  unfold lastTarget?
  rw [List.filterMap_append, List.getLast?_append]

theorem lastTarget?_singleton (request : Request A R ε) :
    lastTarget? [request] = request.target? := by
  cases h : request.target? <;> simp [lastTarget?, h]

structure ConfiguresAlike (first second : List (Request A R ε)) : Prop where
  ofKind_eq : ∀ kind, ofKind kind first = ofKind kind second
  lastTarget_eq : lastTarget? first = lastTarget? second

def registrations (contract : CallContract A R ε) : Kind → List (Request A R ε)
  | .beforeHook => contract.before.map .addBefore
  | .afterHook => contract.after.map .addAfter
  | .precondition => contract.preconditions.map .require
  | .postcondition => contract.postconditions.map .ensure

structure ConfiguredBy (contract : CallContract A R ε) (requests : List (Request A R ε)) :
    Prop where
  lastTarget_eq : lastTarget? requests = some contract.target
  ofKind_eq : ∀ kind, ofKind kind requests = contract.registrations kind

structure ChangedBy (request : Request A R ε) (contract changed : CallContract A R ε) : Prop where
  target_eq : changed.target = request.target?.getD contract.target
  registrations_eq : ∀ kind,
    changed.registrations kind = contract.registrations kind ++ ofKind kind [request]

variable {contract other changed : CallContract A R ε} {request : Request A R ε}
  {requests first second : List (Request A R ε)}

/-- There is nothing to a contract but its target and its registrations. -/
theorem eq_of_registrations_eq (htarget : contract.target = other.target)
    (h : ∀ kind, contract.registrations kind = other.registrations kind) : contract = other := by
  -- What is registered can be read off the request that registers it.
  have hbefore : contract.before = other.before :=
    List.map_injective_iff.2 (fun _ _ => Request.addBefore.inj) (h .beforeHook)
  have hafter : contract.after = other.after :=
    List.map_injective_iff.2 (fun _ _ => Request.addAfter.inj) (h .afterHook)
  have hpreconditions : contract.preconditions = other.preconditions :=
    List.map_injective_iff.2 (fun _ _ => Request.require.inj) (h .precondition)
  have hpostconditions : contract.postconditions = other.postconditions :=
    List.map_injective_iff.2 (fun _ _ => Request.ensure.inj) (h .postcondition)
  obtain ⟨target, preconditions, postconditions, before, after⟩ := contract
  subst htarget hbefore hafter hpreconditions hpostconditions
  rfl

/-- Requests that configure alike leave the same contract. -/
theorem ConfiguredBy.eq (h : contract.ConfiguredBy first) (hother : other.ConfiguredBy second)
    (halike : ConfiguresAlike first second) : contract = other := by
  apply eq_of_registrations_eq
  · have htargets := halike.lastTarget_eq
    rw [h.lastTarget_eq, hother.lastTarget_eq] at htargets
    exact Option.some.inj htargets
  · intro kind
    rw [← h.ofKind_eq, ← hother.ofKind_eq, halike.ofKind_eq]

theorem configuredBy_new (target : A → Client (Except ε R)) (h : request.target? = some target)
    (hkind : request.kind? = none) : (CallContract.new target).ConfiguredBy [request] where
  lastTarget_eq := by
    rw [lastTarget?_singleton, h]
    rfl
  ofKind_eq kind := by
    cases kind <;> simp [ofKind, hkind, registrations, CallContract.new]

theorem ConfiguredBy.change (h : contract.ConfiguredBy requests)
    (hchanged : ChangedBy request contract changed) :
    changed.ConfiguredBy (requests ++ [request]) where
  lastTarget_eq := by
    rw [lastTarget?_append, lastTarget?_singleton, h.lastTarget_eq, hchanged.target_eq]
    cases request.target? <;> rfl
  ofKind_eq kind := by rw [ofKind_append, h.ofKind_eq, hchanged.registrations_eq]

variable [Describe A]

/-- However its run ends, a request that makes no contract changes the one that is there in this way
only. -/
theorem attempt_changes (h : request.makes = false) (contract : CallContract A R ε) :
    ∃ changed, (attempt request (some contract)).1 = some changed ∧
      ChangedBy request contract changed := by
  cases request with
  | new target | newTotal target => cases h
  | withTarget target =>
    refine ⟨contract.withTarget target, rfl, rfl, fun kind => ?_⟩
    cases kind <;> exact (List.append_nil _).symm
  | addBefore hook =>
    refine ⟨contract.addBefore hook, rfl, rfl, fun kind => ?_⟩
    cases kind <;> simp [registrations, addBefore, ofKind, Request.kind?]
  | addAfter hook =>
    refine ⟨contract.addAfter hook, rfl, rfl, fun kind => ?_⟩
    cases kind <;> simp [registrations, addAfter, ofKind, Request.kind?]
  | require p =>
    refine ⟨contract.require p, rfl, rfl, fun kind => ?_⟩
    cases kind <;> simp [registrations, require, ofKind, Request.kind?]
  | ensure p =>
    refine ⟨contract.ensure p, rfl, rfl, fun kind => ?_⟩
    cases kind <;> simp [registrations, ensure, ofKind, Request.kind?]
  | invoke form args =>
    rw [attempt_invoke_some]
    exact ⟨contract, rfl, rfl, fun kind => (List.append_nil _).symm⟩
  | showDebug pretty => exact ⟨contract, rfl, rfl, fun kind => (List.append_nil _).symm⟩

variable [ToString ε]

/-- The requests of a session on one contract configure it, one after the other. -/
theorem ConfiguredBy.finalState (h : contract.ConfiguredBy requests) (mode : FailureMode)
    {later : List (Request A R ε)} (hlater : ∀ request ∈ later, request.makes = false) :
    ∃ final, Session.finalState (machine.step mode) (some contract) later = some final ∧
      final.ConfiguredBy (requests ++ later) := by
  -- The induction is on the requests to come, behind whatever configured the contract before them.
  induction later generalizing contract requests with
  | nil => exact ⟨contract, rfl, by rwa [List.append_nil]⟩
  | cons request rest ih =>
    obtain ⟨hrequest, hrest⟩ := List.forall_mem_cons.1 hlater
    obtain ⟨changed, hattempt, hchanged⟩ := attempt_changes hrequest contract
    have hstep : (machine.step mode request (some contract)).1 = some changed := hattempt
    obtain ⟨final, hfinal, hconfigured⟩ := ih (h.change hchanged) hrest
    refine ⟨final, ?_, ?_⟩
    · rw [Session.finalState_cons, hstep, hfinal]
    · rwa [List.append_assoc] at hconfigured

theorem exists_configuredBy (h : MakesOne requests) (mode : FailureMode) :
    ∃ contract, Session.finalState (machine.step mode) none requests = some contract ∧
      contract.ConfiguredBy requests := by
  cases requests with
  | nil => cases h
  | cons opening steps =>
    obtain ⟨hopening, hsteps⟩ := h
    cases opening with
    | new target => exact (configuredBy_new target rfl rfl).finalState mode hsteps
    | newTotal target =>
      exact (configuredBy_new (fun args => .ok <$> target args) rfl rfl).finalState mode hsteps
    | _ => cases hopening

/-- How a contract was configured is not observed. Take two sessions, each on a contract that it
made, that registered the same of each kind in the same order and installed the same target last; in
between they may have installed any other targets and made any calls. If neither has aborted, both
have come to the same contract, with these registrations and this target, and go on as a session on
it does. So whatever is requested next, in whatever form, is answered and traced alike. -/
theorem configuration_order_unobserved (hfirst : MakesOne first) (hsecond : MakesOne second)
    (halike : ConfiguresAlike first second) (mode : FailureMode)
    (hlive : ∀ report ∈ machine.session mode none first, report.run.Live)
    (hlive' : ∀ report ∈ machine.session mode none second, report.run.Live) :
    ∃ contract : CallContract A R ε, contract.ConfiguredBy first ∧ contract.ConfiguredBy second ∧
      ∀ later,
        machine.session mode none (first ++ later) =
            machine.session mode none first ++ machine.session mode (some contract) later ∧
          machine.session mode none (second ++ later) =
            machine.session mode none second ++ machine.session mode (some contract) later := by
  obtain ⟨contract, hstate, hconfigured⟩ := exists_configuredBy hfirst mode
  obtain ⟨other, hstate', hconfigured'⟩ := exists_configuredBy hsecond mode
  obtain rfl : contract = other := hconfigured.eq hconfigured' halike
  refine ⟨contract, hconfigured, hconfigured', fun later => ⟨?_, ?_⟩⟩
  · have hgoes := Session.reports_append hlive later
    rwa [hstate] at hgoes
  · have hgoes := Session.reports_append hlive' later
    rwa [hstate'] at hgoes

/-- A target that panicked, a call that was refused, a hook that got stuck and a target that was
always busy are forgotten: measured by the same target between the same hooks and predicates, words
are answered alike from then on. -/
theorem measured_words_are_answered_alike :
    let filled := Predicate.named "filled" fun word : String => .ok (word ≠ "")
    let short := Predicate.named "short" fun word : String => .ok (word.length < 6)
    let even := Predicate.named "even" fun length : Nat => .ok (length % 2 = 0)
    let bell : Hook String := ⟨"bell", fun _ => .ok ()⟩
    let latch : Hook String :=
      ⟨"latch", fun word => if word = "jammed" then .error "stuck" else .ok ()⟩
    let measure : String → Client (Except String Nat) := fun word => .ok (.ok word.length)
    let first : List (Request String Nat String) :=
      [.new fun _ => .error "gone", .invoke .checked "x", .addBefore bell, .require filled,
        .withTarget measure, .require short, .invoke .checked "", .addAfter latch,
        .invoke .checked "jammed", .ensure even]
    let second : List (Request String Nat String) :=
      [.newTotal fun _ => .ok 0, .ensure even, .addAfter latch,
        .withTarget fun _ => .ok (.error "busy"), .invoke .failFast "", .require filled,
        .withTarget measure, .addBefore bell, .require short]
    MakesOne first ∧ MakesOne second ∧ ConfiguresAlike first second ∧
      (∀ report ∈ machine.session .panic none first, report.run.Live) ∧
      (∀ report ∈ machine.session .panic none second, report.run.Live) ∧
      ((machine.session .panic none first).map fun report => report.run.outcome.isReturned) =
        [true, false, true, true, true, true, false, true, false, true] ∧
      ((machine.session .panic none second).map fun report => report.run.outcome.isReturned) =
        [true, true, true, true, false, true, true, true, true] ∧
      ∃ contract : CallContract String Nat String, contract.ConfiguredBy first ∧
        contract.ConfiguredBy second ∧ ∀ later,
          machine.session .panic none (first ++ later) =
              machine.session .panic none first ++ machine.session .panic (some contract) later ∧
            machine.session .panic none (second ++ later) =
              machine.session .panic none second ++
                machine.session .panic (some contract) later := by
  intro filled short even bell latch measure first second
  have hfirst : MakesOne first := ⟨rfl, by decide⟩
  have hsecond : MakesOne second := ⟨rfl, by decide⟩
  have halike : ConfiguresAlike first second := ⟨fun kind => by cases kind <;> rfl, rfl⟩
  have hlive : ∀ report ∈ machine.session .panic none first, report.run.Live := by decide
  have hlive' : ∀ report ∈ machine.session .panic none second, report.run.Live := by decide
  exact ⟨hfirst, hsecond, halike, hlive, hlive', rfl, rfl,
    configuration_order_unobserved hfirst hsecond halike .panic hlive hlive'⟩

end CallContract
end RuntimeContracts

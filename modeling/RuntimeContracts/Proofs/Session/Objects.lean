import RuntimeContracts.Proofs.Session.Twins

/-!
# Sessions on objects of every kind

One session may use objects of every kind, in any order; a request then acts on the objects of its
kind and leaves the others alone. Such a session agrees with its twin, and so does a session on
objects of one kind.
-/

namespace RuntimeContracts

structure Objects (V A R ε : Type) where
  constrained : Option (Constrained V)
  linear : Option (Linear V)
  slots : Unique.Slots V
  modal : Option (Modal V)
  automata : Automaton.Workspace V
  contract : Option (CallContract A R ε)
  behaviours : Behaviour.Roster A

namespace Objects

inductive Request (V A R ε : Type) where
  | constrained (request : Constrained.Request V)
  | linear (request : Linear.Request V)
  | unique (request : Unique.Request V)
  | modal (request : Modal.Request V)
  | automaton (request : Automaton.Request V)
  | call (request : CallContract.Request A R ε)
  | behaviour (request : Behaviour.Request A)

inductive Reply (V R : Type) where
  | constrained (reply : Constrained.Reply V)
  | linear (reply : Linear.Reply V)
  | unique (reply : Unique.Reply V)
  | modal (reply : Modal.Reply V)
  | automaton (reply : Automaton.Reply V)
  | call (reply : CallContract.Reply R)
  | behaviour (reply : Behaviour.Reply)

variable {V A R ε : Type}

def empty : Objects V A R ε where
  constrained := none
  linear := none
  slots := Named.empty
  modal := none
  automata := Automaton.Workspace.empty
  contract := none
  behaviours := Behaviour.Roster.empty

def Request.form : Request V A R ε → Form
  | .constrained request => request.form
  | .linear request => request.form
  | .unique request => request.form
  | .modal request => request.form
  | .automaton request => request.form
  | .call request => request.form
  | .behaviour request => request.form

def Request.inForm (form : Form) : Request V A R ε → Request V A R ε
  | .constrained request => .constrained (request.inForm form)
  | .linear request => .linear (request.inForm form)
  | .unique request => .unique (request.inForm form)
  | .modal request => .modal (request.inForm form)
  | .automaton request => .automaton (request.inForm form)
  | .call request => .call (request.inForm form)
  | .behaviour request => .behaviour (request.inForm form)

abbrev Error (ε : Type) := Violation ⊕ CallError ε

def attemptOn {σ δ α : Type} (part : Objects V A R ε → σ)
    (put : σ → Objects V A R ε → Objects V A R ε) (error : δ → Error ε) (reply : α → Reply V R)
    (act : Act σ δ (Option α)) : Act (Objects V A R ε) (Error ε) (Option (Reply V R)) :=
  fun objects =>
    let (s, run) := act (part objects)
    (put s objects, ⟨run.trace, (run.outcome.mapError error).map (Option.map reply)⟩)

variable [Describe V] [DecidableEq V] [Describe A]

def attempt : Request V A R ε → Act (Objects V A R ε) (Error ε) (Option (Reply V R))
  | .constrained request => attemptOn Objects.constrained
    (fun constrained objects => { objects with constrained }) .inl .constrained
    (Constrained.attempt request)
  | .linear request => attemptOn Objects.linear (fun linear objects => { objects with linear })
    .inl .linear (Linear.attempt request)
  | .unique request => attemptOn Objects.slots (fun slots objects => { objects with slots })
    .inl .unique (Unique.attempt request)
  | .modal request => attemptOn Objects.modal (fun modal objects => { objects with modal })
    .inl .modal (Modal.attempt request)
  | .automaton request => attemptOn Objects.automata
    (fun automata objects => { objects with automata }) .inl .automaton
    (Automaton.attempt request)
  | .call request => attemptOn Objects.contract
    (fun contract objects => { objects with contract }) .inr .call (CallContract.attempt request)
  | .behaviour request => attemptOn Objects.behaviours
    (fun behaviours objects => { objects with behaviours }) .inl .behaviour
    (Behaviour.attempt request)

def machine : Machine (Objects V A R ε) (Request V A R ε) (Error ε) (Reply V R) :=
  ⟨attempt, Request.form⟩

def Calm : Request V A R ε → Objects V A R ε → Prop
  | .call request, objects => CallContract.Calm request objects.contract
  | _, _ => True

omit [DecidableEq V] [Describe V] [Describe A] in
theorem live_attemptOn {σ δ α : Type} {part : Objects V A R ε → σ}
    {put : σ → Objects V A R ε → Objects V A R ε} {error : δ → Error ε} {reply : α → Reply V R}
    {act : Act σ δ (Option α)} {objects : Objects V A R ε} (h : (act (part objects)).2.Live) :
    (attemptOn part put error reply act objects).2.Live := by
  change (((act (part objects)).2.outcome.mapError error).map (Option.map reply)).isAborted = false
  rw [Outcome.isAborted_map, Outcome.isAborted_mapError]
  exact h

/-- Only requests to behaviours touch locks, and only contracted calls may abort. -/
theorem attempt_keeps_unlocked {request : Request V A R ε} {objects : Objects V A R ε}
    (hunlocked : objects.behaviours.Unlocked) (hcalm : Calm request objects) :
    (attempt request objects).1.behaviours.Unlocked ∧ (attempt request objects).2.Live := by
  cases request with
  | constrained request =>
    exact ⟨hunlocked, live_attemptOn (Constrained.safe_attempt request _ trivial).2⟩
  | linear request => exact ⟨hunlocked, live_attemptOn (Linear.safe_attempt request _ trivial).2⟩
  | unique request => exact ⟨hunlocked, live_attemptOn (Unique.safe_attempt request _ trivial).2⟩
  | modal request => exact ⟨hunlocked, live_attemptOn (Modal.safe_attempt request _ trivial).2⟩
  | automaton request =>
    exact ⟨hunlocked, live_attemptOn (Automaton.safe_attempt request _ trivial).2⟩
  | call request => exact ⟨hunlocked, live_attemptOn (CallContract.live_attempt hcalm)⟩
  | behaviour request =>
    obtain ⟨hkept, hlive⟩ := Behaviour.safe_attempt request objects.behaviours hunlocked
    exact ⟨hkept, live_attemptOn hlive⟩

theorem attempt_inForm (form : Form) (request : Request V A R ε) :
    attempt (request.inForm form) = attempt request := by
  cases request <;> simp only [attempt, Request.inForm, Constrained.attempt_inForm,
    Linear.attempt_inForm, Unique.attempt_inForm, Modal.attempt_inForm, Automaton.attempt_inForm,
    CallContract.attempt_inForm, Behaviour.attempt_inForm]

end Objects

section

variable {V A R ε : Type} [Describe V] [DecidableEq V] [Describe A] [ToString ε]

/-- Sessions on objects of each kind, and sessions on objects of all kinds, agree with their twins,
as long as no after-hook panics while a panic is already on its way. -/
theorem sessions_agree_with_twins (constrained : List (Constrained.Request V × Form))
    (linear : List (Linear.Request V × Form)) (unique : List (Unique.Request V × Form))
    (modal : List (Modal.Request V × Form)) (automaton : List (Automaton.Request V × Form))
    (calls : List (CallContract.Request A R ε × Form))
    (behaviours : List (Behaviour.Request A × Form))
    (mixed : List (Objects.Request V A R ε × Form))
    (hcalls : CallContract.machine.Along CallContract.Calm none (calls.map Prod.fst))
    (hmixed : Objects.machine.Along Objects.Calm Objects.empty (mixed.map Prod.fst)) :
    Constrained.machine.AgreesWithTwin Constrained.Request.inForm none constrained ∧
      Linear.machine.AgreesWithTwin Linear.Request.inForm none linear ∧
      Unique.machine.AgreesWithTwin Unique.Request.inForm Named.empty unique ∧
      Modal.machine.AgreesWithTwin Modal.Request.inForm none modal ∧
      Automaton.machine.AgreesWithTwin Automaton.Request.inForm Automaton.Workspace.empty
        automaton ∧
      CallContract.machine.AgreesWithTwin CallContract.Request.inForm none calls ∧
      Behaviour.machine.AgreesWithTwin Behaviour.Request.inForm Behaviour.Roster.empty
        behaviours ∧
      Objects.machine.AgreesWithTwin Objects.Request.inForm Objects.empty mixed := by
  refine ⟨?_, ?_, ?_, ?_, ?_, ?_, ?_, ?_⟩
  · exact Machine.agreesWithTwin_of_safe Constrained.attempt_inForm Constrained.safe_attempt
      trivial constrained
  · exact Machine.agreesWithTwin_of_safe Linear.attempt_inForm Linear.safe_attempt trivial linear
  · exact Machine.agreesWithTwin_of_safe Unique.attempt_inForm Unique.safe_attempt trivial unique
  · exact Machine.agreesWithTwin_of_safe Modal.attempt_inForm Modal.safe_attempt trivial modal
  · exact Machine.agreesWithTwin_of_safe Automaton.attempt_inForm Automaton.safe_attempt trivial
      automaton
  · exact Machine.agreesWithTwin (I := fun _ => True) CallContract.attempt_inForm
      (fun request s _ hcalm => ⟨trivial, CallContract.live_attempt hcalm⟩) trivial calls hcalls
  · exact Machine.agreesWithTwin_of_safe Behaviour.attempt_inForm Behaviour.safe_attempt
      Behaviour.unlocked_empty behaviours
  · exact Machine.agreesWithTwin (I := fun objects => objects.behaviours.Unlocked)
      Objects.attempt_inForm (fun _ _ => Objects.attempt_keeps_unlocked) Behaviour.unlocked_empty
      mixed hmixed

end

/-- An after-hook that panics behind a refusal hides it in both forms, and an empty slot refuses in
both. -/
theorem agree_with_twins_behind_panicking_hook :
    let calls : List (CallContract.Request String Nat String × Form) :=
      [(.new fun _ => .ok (.error "busy"), .checked), (.invoke .failFast "x", .checked),
        (.addAfter ⟨"bell", fun _ => .error "cracked"⟩, .checked),
        (.invoke .checked "x", .failFast)]
    let mixed : List (Objects.Request String String Nat String × Form) :=
      [(.unique (.empty "slot"), .checked), (.call (.new fun _ => .ok (.error "busy")), .checked),
        (.unique (.read .checked "slot"), .failFast), (.call (.invoke .failFast "x"), .checked)]
    CallContract.machine.Along CallContract.Calm none (calls.map Prod.fst) ∧
      Objects.machine.Along Objects.Calm Objects.empty (mixed.map Prod.fst) ∧
      CallContract.machine.AgreesWithTwin CallContract.Request.inForm none calls ∧
      Objects.machine.AgreesWithTwin Objects.Request.inForm Objects.empty mixed := by
  intro calls mixed
  have hcalls : CallContract.machine.Along CallContract.Calm none (calls.map Prod.fst) :=
    ⟨trivial, fun h => Bool.noConfusion h.1, trivial, fun h => Bool.noConfusion h.1, trivial⟩
  have hmixed : Objects.machine.Along Objects.Calm Objects.empty (mixed.map Prod.fst) :=
    ⟨trivial, trivial, trivial, fun h => Bool.noConfusion h.1, trivial⟩
  obtain ⟨_, _, _, _, _, hagree, _, hmixedAgree⟩ :=
    sessions_agree_with_twins [] [] [] [] [] calls [] mixed hcalls hmixed
  exact ⟨hcalls, hmixed, hagree, hmixedAgree⟩

end RuntimeContracts

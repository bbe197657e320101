import RuntimeContracts.Proofs.Session.Objects
import RuntimeContracts.Proofs.Session.RefusedWrites
import RuntimeContracts.Settings.Session

/-!
# Failure modes

A session in abort mode is the same session in panic mode, cut short at the first turn that fails
fast: up to there both report the same, and where the one panics the other aborts, with the same
text on a line of its own. No other turn aborts.
-/

namespace RuntimeContracts

/-- An abort in the place of a panic; the text is written on a line. -/
def Outcome.abortInstead {ε α : Type} : Outcome ε α → Outcome ε α
  | .panicked text => .aborted (text ++ "\n")
  | outcome => outcome

def Report.onState {σ τ ε α : Type} (view : σ → τ) (report : Report σ ε α) : Report τ ε α :=
  ⟨report.run, view report.state⟩

namespace Session

variable {σ τ ρ ε α : Type}

/-- The reports on the turns before the first that fails fast, and the report on that one with an
abort in the place of its panic. -/
def cutShort (failsFast : Turn σ ρ ε α → Bool) : List (Turn σ ρ ε α) → List (Report σ ε α)
  | [] => []
  | turn :: rest =>
    if failsFast turn then
      [⟨⟨turn.report.run.trace, turn.report.run.outcome.abortInstead⟩, turn.report.state⟩]
    else turn.report :: cutShort failsFast rest

theorem cutShort_of_none {failsFast : Turn σ ρ ε α → Bool} {turns : List (Turn σ ρ ε α)}
    (h : ∀ turn ∈ turns, failsFast turn = false) :
    cutShort failsFast turns = turns.map Turn.report := by
  induction turns with
  | nil => rfl
  | cons turn rest ih =>
    have hfirst : failsFast turn = false := h turn List.mem_cons_self
    have hrest := ih fun other hmem => h other (List.mem_cons_of_mem _ hmem)
    rw [cutShort, if_neg (by simp [hfirst]), hrest, List.map_cons]

/-- The turns of a session in abort mode beside those in panic mode, with what is viewed of their
states. -/
structure CutAtFailFast (view : σ → τ) (failsFast : Turn σ ρ ε α → Bool)
    (aborting panicking : List (Turn σ ρ ε α)) : Prop where
  reports_eq : aborting.map (·.report.onState view) =
    (cutShort failsFast panicking).map (·.onState view)
  same_reports : (∀ turn ∈ panicking, failsFast turn = false) →
    aborting.map (·.report.onState view) = panicking.map (·.report.onState view)
  panics : ∀ turn ∈ panicking, failsFast turn = true →
    ∃ text, turn.report.run.outcome = .panicked text
  aborts : ∀ turn ∈ aborting, turn.report.run.outcome.isAborted = failsFast turn

namespace CutAtFailFast

variable {view : σ → τ} {failsFast : Turn σ ρ ε α → Bool}

theorem of_reports {aborting panicking : List (Turn σ ρ ε α)}
    (hreports : aborting.map (·.report.onState view) =
      (cutShort failsFast panicking).map (·.onState view))
    (hpanics : ∀ turn ∈ panicking, failsFast turn = true →
      ∃ text, turn.report.run.outcome = .panicked text)
    (haborts : ∀ turn ∈ aborting, turn.report.run.outcome.isAborted = failsFast turn) :
    CutAtFailFast view failsFast aborting panicking := by
  refine ⟨hreports, fun hnone => ?_, hpanics, haborts⟩
  rw [hreports, cutShort_of_none hnone, List.map_map]
  rfl

theorem nil : CutAtFailFast view failsFast [] [] := of_reports rfl nofun nofun

/-- Both sessions make the same turn, and go on. -/
theorem goesOn {aborting panicking : Turn σ ρ ε α} {restAborting rest : List (Turn σ ρ ε α)}
    (haborting : failsFast aborting = false) (hpanicking : failsFast panicking = false)
    (hreport : aborting.report.onState view = panicking.report.onState view)
    (hlive : aborting.report.run.Live) (hrest : CutAtFailFast view failsFast restAborting rest) :
    CutAtFailFast view failsFast (aborting :: restAborting) (panicking :: rest) := by
  refine of_reports ?_ ?_ ?_
  · rw [cutShort, if_neg (by simp [hpanicking]), List.map_cons, List.map_cons, hreport,
      hrest.reports_eq]
  · intro turn hmem hfails
    rcases List.mem_cons.1 hmem with rfl | hmem
    · rw [hpanicking] at hfails
      cases hfails
    · exact hrest.panics turn hmem hfails
  · intro turn hmem
    rcases List.mem_cons.1 hmem with rfl | hmem
    · exact hlive.trans haborting.symm
    · exact hrest.aborts turn hmem

/-- Both sessions make a turn that fails fast, and only the one in panic mode goes on. -/
theorem stops {aborting panicking : Turn σ ρ ε α} {restAborting rest : List (Turn σ ρ ε α)}
    {trace : Trace} {text : String}
    (haborting : failsFast aborting = true) (hpanicking : failsFast panicking = true)
    (habort : aborting.report.run = ⟨trace, FailureMode.abort.stop text⟩)
    (hpanic : panicking.report.run = ⟨trace, FailureMode.panic.stop text⟩)
    (hstate : view aborting.report.state = view panicking.report.state)
    (hrest : CutAtFailFast view failsFast restAborting rest) :
    CutAtFailFast view failsFast [aborting] (panicking :: rest) := by
  refine of_reports ?_ ?_ ?_
  · rw [cutShort, if_pos hpanicking, List.map_singleton, List.map_singleton, Report.onState,
      Report.onState, habort, hpanic, hstate]
    rfl
  · intro turn hmem hfails
    rcases List.mem_cons.1 hmem with rfl | hmem
    · exact ⟨text, by rw [hpanic]; rfl⟩
    · exact hrest.panics turn hmem hfails
  · intro turn hmem
    rw [List.mem_singleton.1 hmem, haborting, habort]
    rfl

end CutAtFailFast
end Session

namespace Machine

variable {σ ρ ε α : Type} [Diagnosis ε] {machine : Machine σ ρ ε α}

open Session

omit [Diagnosis ε] in
def failsFast (machine : Machine σ ρ ε α) (turn : Turn σ ρ ε (Option α)) : Bool :=
  machine.form turn.request = .failFast &&
    (machine.attempt turn.request turn.before).2.outcome.isRefused

def AbortCutsPanic (machine : Machine σ ρ ε α) (s : σ) (requests : List ρ) : Prop :=
  CutAtFailFast id machine.failsFast (turns (machine.step .abort) s requests)
    (turns (machine.step .panic) s requests)

/-- A turn that does not fail fast does not depend on the mode. -/
theorem step_of_not_failsFast {request : ρ} {s : σ} {report : Report σ ε (Option α)}
    (h : machine.failsFast ⟨request, s, report⟩ = false) (mode : FailureMode) :
    machine.step mode request s = machine.attempt request s := by
  have hstep : machine.step mode request s = ((machine.attempt request s).1,
      (machine.attempt request s).2.inForm mode (machine.form request)) := rfl
  cases hform : machine.form request with
  | checked =>
    rw [hstep, hform]
    rfl
  | failFast =>
    refine machine.step_eq_attempt mode fun e hrefused => ?_
    simp [failsFast, hform, hrefused, Outcome.isRefused] at h

theorem step_of_failsFast {request : ρ} {s : σ} {report : Report σ ε (Option α)}
    (h : machine.failsFast ⟨request, s, report⟩ = true) :
    ∃ trace text, ∀ mode : FailureMode, machine.step mode request s =
      ((machine.attempt request s).1, ⟨trace, mode.stop text⟩) := by
  obtain ⟨hform, hrefused⟩ := Bool.and_eq_true_iff.1 h
  have hform : machine.form request = .failFast := of_decide_eq_true hform
  cases ho : (machine.attempt request s).2.outcome with
  | refused e =>
    refine ⟨(machine.attempt request s).2.trace ++ [.reported (Diagnosis.event e)],
      Diagnosis.stopText e, fun mode => ?_⟩
    have hstep : machine.step mode request s = ((machine.attempt request s).1,
        (machine.attempt request s).2.inForm mode (machine.form request)) := rfl
    rw [hstep, hform, ← Run.enforce_of_refused mode ho]
    rfl
  | returned a | panicked text | aborted text =>
    dsimp only at hrefused
    rw [ho] at hrefused
    cases hrefused

/-- Attempts that do not abort on their own abort only where they fail fast. -/
theorem abortCutsPanic {I : σ → Prop} {P : ρ → σ → Prop}
    (hstep : ∀ request s, I s → P request s →
      I (machine.attempt request s).1 ∧ (machine.attempt request s).2.Live)
    {s : σ} (hs : I s) (requests : List ρ) (halong : machine.Along P s requests) :
    machine.AbortCutsPanic s requests := by
  induction requests generalizing s with
  | nil => exact .nil
  | cons request rest ih =>
    obtain ⟨hfirst, hrest⟩ := halong
    obtain ⟨hkept, hlive⟩ := hstep request s hs hfirst
    have hcut := ih hkept hrest
    unfold AbortCutsPanic at hcut ⊢
    rw [turns_cons, turns_cons]
    cases hfails : machine.failsFast ⟨request, s,
        ⟨(machine.attempt request s).2, (machine.attempt request s).1⟩⟩ with
    | true =>
      obtain ⟨trace, text, hmodes⟩ := step_of_failsFast hfails
      rw [hmodes .abort, hmodes .panic]
      exact hcut.stops hfails hfails rfl rfl rfl
    | false =>
      rw [step_of_not_failsFast hfails .abort, step_of_not_failsFast hfails .panic,
        show (machine.attempt request s).2.outcome.isAborted = false from hlive]
      exact hcut.goesOn hfails hfails rfl hlive

theorem abortCutsPanic_of_safe {I : σ → Prop}
    (hsafe : ∀ request, Act.Safe I (machine.attempt request)) {s : σ} (hs : I s)
    (requests : List ρ) : machine.AbortCutsPanic s requests :=
  abortCutsPanic (fun request s hs _ => hsafe request s hs) hs requests
    (machine.along_true s requests)

end Machine

namespace Settings

variable {V : Type}

open Session

def Request.isInstall : Request V → Bool
  | .install => true
  | _ => false

def failsFast (turn : Turn Control (Request V) Enforced (Reply V)) : Bool :=
  match turn.request with
  | .enforceViolation _ | .enforceCallError _ => true
  | _ => false

/-- The act neither reads nor changes what is installed, and the program goes on after it. -/
def IgnoresInstalled (act : Act Control Enforced (Reply V)) : Prop :=
  ∀ settings, ∃ settings' run, run.Live ∧ ∀ mode, act ⟨settings, mode⟩ = (⟨settings', mode⟩, run)

theorem ignoresInstalled_replyTo {β : Type} (read : Except ReadError β)
    {reply : β → Act Control Enforced (Reply V)} (h : ∀ b, IgnoresInstalled (reply b)) :
    IgnoresInstalled (replyTo read reply) := by
  cases read with
  | ok b => exact h b
  | error error => exact fun settings => ⟨settings, pure (.unreadable error), rfl, fun _ => rfl⟩

variable [Format]

/-- The sessions in abort and in panic mode, up to the installed mode that their states show. -/
def AbortCutsPanic (settings : Settings) (requests : List (Request V)) : Prop :=
  CutAtFailFast Control.settings failsFast (turns step ⟨settings, .abort⟩ requests)
    (turns step ⟨settings, .panic⟩ requests)

theorem step_of_failsFast {request : Request V} {control : Control}
    {report : Report Control Enforced (Reply V)}
    (h : failsFast ⟨request, control, report⟩ = true) :
    ∃ trace text, ∀ control,
      step request control = (control, ⟨trace, control.installed.stop text⟩) := by
  cases request with
  | enforceViolation violation => exact ⟨_, _, fun _ => rfl⟩
  | enforceCallError error => exact ⟨_, _, fun _ => rfl⟩
  | _ => cases h

theorem ignoresInstalled_of_not_failsFast {request : Request V} {control : Control}
    {report : Report Control Enforced (Reply V)}
    (h : failsFast ⟨request, control, report⟩ = false) (hinstall : request.isInstall = false) :
    IgnoresInstalled (step request) := by
  cases request with
  | read text =>
    exact ignoresInstalled_replyTo (Format.read text) fun new settings =>
      ⟨new, pure (.replaced (new = settings)), rfl, fun _ => rfl⟩
  | readMode text =>
    exact ignoresInstalled_replyTo (Format.readMode text) fun mode settings =>
      ⟨settings, pure (.mode mode), rfl, fun _ => rfl⟩
  | readKind text =>
    exact ignoresInstalled_replyTo (Format.readKind text) fun kind settings =>
      ⟨settings, pure (.kind kind), rfl, fun _ => rfl⟩
  | setMode mode =>
    exact fun settings => ⟨settings.withMode mode, pure .done, rfl, fun _ => rfl⟩
  | showDebug pretty =>
    exact fun settings =>
      ⟨settings, pure (.text (settings.shape.render pretty)), rfl, fun _ => rfl⟩
  | enforceValue value => exact fun settings => ⟨settings, pure (.value value), rfl, fun _ => rfl⟩
  | install => cases hinstall
  | enforceViolation violation | enforceCallError error => cases h

theorem abortCutsPanic (settings : Settings) {requests : List (Request V)}
    (h : ∀ request ∈ requests, request.isInstall = false) : AbortCutsPanic settings requests := by
  induction requests generalizing settings with
  | nil => exact .nil
  | cons request rest ih =>
    have hfirst := h request List.mem_cons_self
    have hrest : ∀ settings, AbortCutsPanic settings rest := fun settings =>
      ih settings fun other hmem => h other (List.mem_cons_of_mem _ hmem)
    unfold AbortCutsPanic at hrest ⊢
    rw [turns_cons, turns_cons]
    cases hfails : failsFast ⟨request, ⟨settings, .abort⟩,
        ⟨(step request ⟨settings, .abort⟩).2, (step request ⟨settings, .abort⟩).1⟩⟩ with
    | true =>
      obtain ⟨trace, text, hstep⟩ := step_of_failsFast hfails
      rw [hstep ⟨settings, .abort⟩, hstep ⟨settings, .panic⟩]
      exact (hrest settings).stops hfails hfails rfl rfl rfl
    | false =>
      have hignores := ignoresInstalled_of_not_failsFast hfails hfirst
      obtain ⟨settings', run, hlive, hstep⟩ := hignores settings
      rw [hstep .abort, hstep .panic, show run.outcome.isAborted = false from hlive]
      exact (hrest settings').goesOn hfails hfails rfl hlive

/-- The mode that was installed before is forgotten. -/
theorem session_install (settings : Settings) (first second : FailureMode)
    (rest : List (Request V)) :
    session ⟨settings, first⟩ (.install :: rest) = session ⟨settings, second⟩ (.install :: rest) :=
  rfl

end Settings

section

variable {V A R ε : Type} [Describe V] [DecidableEq V] [Describe A] [ToString ε] [Settings.Format]

/-- Sessions in abort mode are those in panic mode, cut short at the first turn that fails fast: on
objects of each kind and of all kinds, as long as no after-hook panics while a panic is already on
its way, and on settings up to where they are installed, whatever format they are read in. From
there on, both are the same. -/
theorem abort_mode_cuts_panic_mode (constrained : List (Constrained.Request V))
    (linear : List (Linear.Request V)) (unique : List (Unique.Request V))
    (modal : List (Modal.Request V)) (automaton : List (Automaton.Request V))
    (calls : List (CallContract.Request A R ε)) (behaviours : List (Behaviour.Request A))
    (mixed : List (Objects.Request V A R ε)) (held : Settings)
    (settings : List (Settings.Request V))
    (hcalls : CallContract.machine.Along CallContract.Calm none calls)
    (hmixed : Objects.machine.Along Objects.Calm Objects.empty mixed)
    (hsettings : ∀ request ∈ settings, request.isInstall = false) :
    Constrained.machine.AbortCutsPanic none constrained ∧
      Linear.machine.AbortCutsPanic none linear ∧
      Unique.machine.AbortCutsPanic Named.empty unique ∧
      Modal.machine.AbortCutsPanic none modal ∧
      Automaton.machine.AbortCutsPanic Automaton.Workspace.empty automaton ∧
      CallContract.machine.AbortCutsPanic none calls ∧
      Behaviour.machine.AbortCutsPanic Behaviour.Roster.empty behaviours ∧
      Objects.machine.AbortCutsPanic Objects.empty mixed ∧
      Settings.AbortCutsPanic held settings ∧
      ∀ rest : List (Settings.Request V), Settings.session ⟨held, .abort⟩ (.install :: rest) =
        Settings.session ⟨held, .panic⟩ (.install :: rest) := by
  refine ⟨?_, ?_, ?_, ?_, ?_, ?_, ?_, ?_, ?_, ?_⟩
  · exact Machine.abortCutsPanic_of_safe Constrained.safe_attempt trivial constrained
  · exact Machine.abortCutsPanic_of_safe Linear.safe_attempt trivial linear
  · exact Machine.abortCutsPanic_of_safe Unique.safe_attempt trivial unique
  · exact Machine.abortCutsPanic_of_safe Modal.safe_attempt trivial modal
  · exact Machine.abortCutsPanic_of_safe Automaton.safe_attempt trivial automaton
  · exact Machine.abortCutsPanic (I := fun _ => True)
      (fun request s _ hcalm => ⟨trivial, CallContract.live_attempt hcalm⟩) trivial calls hcalls
  · exact Machine.abortCutsPanic_of_safe Behaviour.safe_attempt Behaviour.unlocked_empty behaviours
  · exact Machine.abortCutsPanic (I := fun objects => objects.behaviours.Unlocked)
      (fun _ _ => Objects.attempt_keeps_unlocked) Behaviour.unlocked_empty mixed hmixed
  · exact Settings.abortCutsPanic held hsettings
  · exact Settings.session_install held .abort .panic

end

/-- The call that fails fast ends both lists in abort mode; the settings are changed but not
installed before a violation. -/
theorem abort_mode_cuts_panicking_call :
    let calls : List (CallContract.Request String Nat String) :=
      [.new fun _ => .ok (.error "busy"), .invoke .checked "x", .invoke .failFast "x",
        .showDebug false]
    let mixed : List (Objects.Request String String Nat String) :=
      [.unique (.empty "slot"), .call (.new fun _ => .ok (.error "busy")),
        .unique (.read .checked "slot"), .call (.invoke .failFast "x"), .behaviour (.name "b")]
    let settings : List (Settings.Request String) :=
      [.setMode .panic, .enforceViolation .alreadyConsumed, .enforceValue "x"]
    CallContract.machine.Along CallContract.Calm none calls ∧
      Objects.machine.Along Objects.Calm Objects.empty mixed ∧
      (∀ request ∈ settings, request.isInstall = false) ∧
      CallContract.machine.AbortCutsPanic none calls ∧
      Objects.machine.AbortCutsPanic Objects.empty mixed ∧
      Settings.AbortCutsPanic default settings := by
  intro calls mixed settings
  have hcalls : CallContract.machine.Along CallContract.Calm none calls :=
    ⟨trivial, fun h => Bool.noConfusion h.1, fun h => Bool.noConfusion h.1, trivial, trivial⟩
  have hmixed : Objects.machine.Along Objects.Calm Objects.empty mixed :=
    ⟨trivial, trivial, trivial, fun h => Bool.noConfusion h.1, trivial, trivial⟩
  have hsettings : ∀ request ∈ settings, request.isInstall = false := by
    simp [settings, Settings.Request.isInstall]
  obtain ⟨_, _, _, _, _, hcut, _, hmixedCut, hsettingsCut, _⟩ :=
    abort_mode_cuts_panic_mode [] [] [] [] [] calls [] mixed default settings hcalls hmixed
      hsettings
  exact ⟨hcalls, hmixed, hsettings, hcut, hmixedCut, hsettingsCut⟩

/-- Where panic mode is installed in a session that began in abort mode, a violation does not abort,
and the session goes on like the one that began in panic mode. -/
theorem installed_panic_mode_is_not_cut :
    let requests : List (Settings.Request Nat) :=
      [.setMode .panic, .install, .enforceViolation .alreadyConsumed, .enforceValue 1]
    ¬ Session.CutAtFailFast id Settings.failsFast
        (Session.turns Settings.step (.start .abort) requests)
        (Session.turns Settings.step (.start .panic) requests) ∧
      ¬ Settings.AbortCutsPanic default requests := by
  constructor
  · intro hcut
    exact absurd (congrArg List.length hcut.reports_eq) (by decide +kernel)
  · intro hcut
    exact absurd (congrArg List.length hcut.reports_eq) (by decide +kernel)

end RuntimeContracts

import RuntimeContracts.Session.Machine

/-!
# Sessions with requests taken out

A turn of a session is a request with the state before it and the report on it. If requests that
leave the state as it was are taken out of a session, the others are reported on as before.
-/

namespace RuntimeContracts.Session

structure Turn (σ ρ ε α : Type) where
  request : ρ
  before : σ
  report : Report σ ε α

variable {σ ρ ε α : Type}

def Turn.accepted (turn : Turn σ ρ ε α) : Bool := turn.report.run.outcome.isReturned

/-- The turns of a session, up to one that aborts. -/
def turns (step : ρ → Act σ ε α) : σ → List ρ → List (Turn σ ρ ε α)
  | _, [] => []
  | s, request :: rest =>
    let (s', run) := step request s
    ⟨request, s, ⟨run, s'⟩⟩ :: if run.outcome.isAborted then [] else turns step s' rest

def lastState : σ → List (Report σ ε α) → σ
  | s, [] => s
  | _, report :: rest => lastState report.state rest

variable {step : ρ → Act σ ε α}

theorem turns_cons (s : σ) (request : ρ) (rest : List ρ) :
    turns step s (request :: rest) =
      ⟨request, s, ⟨(step request s).2, (step request s).1⟩⟩ ::
        if (step request s).2.outcome.isAborted then [] else turns step (step request s).1 rest :=
  rfl

/-- Every request has its turn if none aborts. -/
theorem map_request_turns (h : ∀ request s, (step request s).2.outcome.isAborted = false) (s : σ)
    (requests : List ρ) : (turns step s requests).map Turn.request = requests := by
  induction requests generalizing s with
  | nil => rfl
  | cons request rest ih => simp [turns_cons, h, ih]

/-- What holds of every turn from a state of some kind, if its step leaves a state of that kind,
holds of every turn of a session. -/
theorem forall_mem_turns {P : σ → Prop} {Q : Turn σ ρ ε α → Prop} {requests : List ρ}
    (hstep : ∀ request ∈ requests, ∀ s, P s →
      Q ⟨request, s, ⟨(step request s).2, (step request s).1⟩⟩ ∧ P (step request s).1)
    {s : σ} (hs : P s) : ∀ turn ∈ turns step s requests, Q turn := by
  induction requests generalizing s with
  | nil => nofun
  | cons request rest ih =>
    obtain ⟨hfirst, hnext⟩ := hstep request List.mem_cons_self s hs
    have hrest := ih (fun other hmem => hstep other (List.mem_cons_of_mem request hmem)) hnext
    rw [turns_cons]
    intro turn hmem
    rcases List.mem_cons.1 hmem with rfl | hmem
    · exact hfirst
    · split at hmem
      · cases hmem
      · exact hrest turn hmem

def Chained (step : ρ → Act σ ε α) : σ → List (Turn σ ρ ε α) → Prop
  | _, [] => True
  | s, turn :: rest =>
    turn.before = s ∧ turn.report = ⟨(step turn.request s).2, (step turn.request s).1⟩ ∧
      Chained step turn.report.state rest

theorem chained_turns (s : σ) (requests : List ρ) : Chained step s (turns step s requests) := by
  induction requests generalizing s with
  | nil => trivial
  | cons request rest ih =>
    rw [turns_cons]
    refine ⟨rfl, rfl, ?_⟩
    split
    · trivial
    · exact ih _

theorem chained_append {s : σ} {first second : List (Turn σ ρ ε α)} :
    Chained step s (first ++ second) ↔
      Chained step s first ∧ Chained step (lastState s (first.map Turn.report)) second := by
  induction first generalizing s with
  | nil => simp [Chained, lastState]
  | cons turn rest ih => simp [Chained, lastState, ih, and_assoc]

/-- What every step keeps holds before every turn. -/
theorem Chained.before_of_mem {motive : σ → Prop} {s : σ} {turns : List (Turn σ ρ ε α)}
    (h : Chained step s turns)
    (hstep : ∀ request s, motive s → motive (step request s).1) (hs : motive s)
    {turn : Turn σ ρ ε α} (hmem : turn ∈ turns) : motive turn.before := by
  induction turns generalizing s with
  | nil => cases hmem
  | cons first rest ih =>
    obtain ⟨hbefore, hreport, hrest⟩ := h
    rcases List.mem_cons.1 hmem with rfl | hmem
    · rw [hbefore]
      exact hs
    · have hnext : motive first.report.state := by
        rw [hreport]
        exact hstep first.request s hs
      exact ih hrest hnext hmem

theorem Chained.report_of_mem {s : σ} {turns : List (Turn σ ρ ε α)} (h : Chained step s turns)
    {turn : Turn σ ρ ε α} (hmem : turn ∈ turns) :
    turn.report = ⟨(step turn.request turn.before).2, (step turn.request turn.before).1⟩ := by
  induction turns generalizing s with
  | nil => cases hmem
  | cons first rest ih =>
    obtain ⟨hbefore, hreport, hrest⟩ := h
    rcases List.mem_cons.1 hmem with rfl | hmem
    · rw [hbefore]
      exact hreport
    · exact ih hrest hmem

/-- Without the erased turns, a session reports on the others as before, and ends where it did. -/
def Forgets (step : ρ → Act σ ε α) (erased : Turn σ ρ ε α → Bool) : Prop :=
  ∀ s requests,
    let kept := (turns step s requests).filter fun turn => !erased turn
    reports step s (kept.map Turn.request) = kept.map Turn.report ∧
      lastState s (kept.map Turn.report) = lastState s (reports step s requests)

theorem forgets_of_keeps {erased : Turn σ ρ ε α → Bool}
    (h : ∀ request s, erased ⟨request, s, ⟨(step request s).2, (step request s).1⟩⟩ = true →
      (step request s).1 = s ∧ (step request s).2.outcome.isAborted = false) :
    Forgets step erased := by
  intro s requests
  induction requests generalizing s with
  | nil => exact ⟨rfl, rfl⟩
  | cons request rest ih =>
    rw [turns_cons, reports_cons, List.filter_cons]
    obtain ⟨hreports, hlast⟩ := ih (step request s).1
    cases herased : erased ⟨request, s, ⟨(step request s).2, (step request s).1⟩⟩ with
    | true =>
      -- The turn is taken out, and the next one begins in the same state.
      obtain ⟨hstate, hlive⟩ := h request s herased
      rw [hstate] at hreports hlast
      simp [hlive, hstate, hreports, hlast, lastState]
    | false =>
      cases haborted : (step request s).2.outcome.isAborted with
      | true => simp [lastState, reports_cons, haborted]
      | false => simp [lastState, reports_cons, haborted, hreports, hlast]

end RuntimeContracts.Session

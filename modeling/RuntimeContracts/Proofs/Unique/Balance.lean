import RuntimeContracts.Proofs.Unique.Separation

/-!
# What becomes of the values in a slot

A value that was put into a slot is still there, was handed out by a read, or was overwritten, which
is reported. A read hands out the value that was put in last, unless it has been handed out already.
-/

namespace RuntimeContracts.Unique

open Session (Turn turns lastState Chained)

variable {V : Type}

def Request.make (slot : String) : Option V → Request V
  | some value => .new slot value
  | none => .empty slot

/-- The request puts a slot of its own under the name, whatever was there. -/
def Request.makes (slot : String) : Request V → Bool
  | .new name _ | .empty name | .copy _ name => name = slot
  | _ => false

def Request.reads (slot : String) : Request V → Bool
  | .read _ name => name = slot
  | _ => false

def Request.fills (slot : String) : Request V → Bool
  | .fill name _ => name = slot
  | _ => false

abbrev SlotTurn (V : Type) := Turn (Slots V) (Request V) Violation (Option (Reply V))

def handsOut (slot : String) (turn : SlotTurn V) : Bool :=
  turn.request.reads slot && turn.accepted

def reportsOfLoss (trace : Trace) : List Event :=
  trace.events.filter (·.message = "unique slot overwritten before it was read")

def overwrites (slot : String) (turn : SlotTurn V) : List Event :=
  if slot ∈ turn.request.slots then reportsOfLoss turn.report.run.trace else []

inductive Handling (V : Type) where
  | put (value : V)
  | take

def Handling.left : Handling V → Option V
  | put value => some value
  | take => none

def handling? (slot : String) (turn : SlotTurn V) : Option (Handling V) :=
  match turn.request with
  | .new name value | .fill name value => if name = slot then some (.put value) else none
  | _ => if handsOut slot turn then some .take else none

def history (slot : String) (session : List (SlotTurn V)) : List (Handling V) :=
  session.filterMap (handling? slot)

def heldAfter (slot : String) (held : Option V) (session : List (SlotTurn V)) : Option V :=
  (history slot session).getLast?.elim held Handling.left

theorem heldAfter_cons (slot : String) (held : Option V) (turn : SlotTurn V)
    (rest : List (SlotTurn V)) :
    heldAfter slot held (turn :: rest) = heldAfter slot (heldAfter slot held [turn]) rest := by
  have hhistory : ∀ session, history slot (turn :: session) =
      (handling? slot turn).toList ++ history slot session := fun session => by
    cases h : handling? slot turn <;> simp [history, h]
  unfold heldAfter
  rw [hhistory, hhistory, List.getLast?_append, List.getLast?_append]
  cases (history slot rest).getLast? <;> rfl

theorem heldAfter_none_eq_some_iff {slot : String} {session : List (SlotTurn V)} {value : V} :
    heldAfter slot none session = some value ↔
      (history slot session).getLast? = some (.put value) := by
  unfold heldAfter
  rcases (history slot session).getLast? with _ | handling
  · simp
  · cases handling <;> simp [Handling.left]

/-- Everything that a request can do to a slot which it does not make: the slot held one content
before it and holds another after it. -/
inductive Effect (slot : String) (mode : FailureMode) (held : Option V) :
    Request V → Option V → Run Violation (Option (Reply V)) → Prop where
  | filled (value : V) :
      Effect slot mode held (.fill slot value) (some value)
        ⟨if held.isSome then [.reported .slotOverwritten] else [], .returned (some .done)⟩
  | taken (form : Form) {value : V} (h : held = some value) :
      Effect slot mode held (.read form slot) none (pure (some (.value value)))
  | refused (form : Form) (h : held = none) {run : Run Violation (Option (Reply V))}
      (hrun : run = (Run.refuse .alreadyConsumed).inForm mode form) :
      Effect slot mode held (.read form slot) none run
  | passed {request : Request V} {run : Run Violation (Option (Reply V))}
      (hreads : request.reads slot = false) (hfills : request.fills slot = false)
      (hmakes : request.makes slot = false) (hquiet : slot ∈ request.slots → run.trace = []) :
      Effect slot mode held request held run

section Effects

/-- A refused read is no answer and reports no loss, in either form. -/
theorem refused_read {mode : FailureMode} {form : Form} {run : Run Violation (Option (Reply V))}
    (h : run = (Run.refuse .alreadyConsumed).inForm mode form) :
    run.outcome.isReturned = false ∧ reportsOfLoss run.trace = [] := by
  subst h
  cases form with
  | checked => exact ⟨rfl, rfl⟩
  | failFast => cases mode <;> exact ⟨rfl, rfl⟩

variable {slot : String} {mode : FailureMode} {held left : Option V} {turn : SlotTurn V}

/-- A turn leaves in the slot what its handling says, or what was there. -/
theorem Effect.left_eq (h : Effect slot mode held turn.request left turn.report.run) :
    left = heldAfter slot held [turn] := by
  have hafter : heldAfter slot held [turn] = (handling? slot turn).elim held Handling.left := by
    cases h : handling? slot turn <;> simp [heldAfter, history, h]
  rw [hafter]
  obtain ⟨request, before, run, state⟩ := turn
  cases h with
  | filled value => simp [handling?, Handling.left]
  | taken form hheld =>
    simp [handling?, handsOut, Request.reads, Turn.accepted, Outcome.isReturned, Handling.left]
  | refused form hheld hrun =>
    simp [handling?, handsOut, Turn.accepted, (refused_read hrun).1, hheld]
  | passed hreads hfills hmakes hquiet =>
    have hnone : handling? slot ⟨request, before, run, state⟩ = none := by
      cases request <;> simp_all [handling?, handsOut, Request.fills, Request.makes]
    rw [hnone, Option.elim_none]

/-- What is in the slot or comes in by a turn is handed out, is reported as lost, or stays. -/
theorem Effect.balance (h : Effect slot mode held turn.request left turn.report.run) :
    (if held.isSome then 1 else 0) + (if turn.request.fills slot then 1 else 0) =
      (if handsOut slot turn then 1 else 0) + (overwrites slot turn).length +
        if left.isSome then 1 else 0 := by
  obtain ⟨request, before, run, state⟩ := turn
  cases h with
  | filled value =>
    have hlost : (reportsOfLoss (if held.isSome then [.reported .slotOverwritten] else [])).length =
        if held.isSome then 1 else 0 := by
      cases held <;> rfl
    simp [Request.fills, Request.slots, handsOut, Request.reads, overwrites, hlost]
  | taken form hheld =>
    simp [Request.fills, Request.slots, handsOut, Request.reads, Turn.accepted, overwrites,
      reportsOfLoss, Trace.events, Outcome.isReturned, hheld]
  | refused form hheld hrun =>
    obtain ⟨hnot, hquiet⟩ := refused_read hrun
    simp [Request.fills, Request.slots, handsOut, Turn.accepted, hnot, overwrites, hquiet, hheld]
  | passed hreads hfills hmakes hquiet =>
    have hnone : overwrites slot ⟨request, before, run, state⟩ = [] := by
      unfold overwrites
      split
      · next hnamed => rw [hquiet hnamed]; rfl
      · rfl
    simp [hfills, handsOut, hreads, hnone]

end Effects

def makingTurn (slot : String) (origin : Option V) (slots : Slots V) : SlotTurn V :=
  ⟨.make slot origin, slots, ⟨pure (some .done), slots.insert slot ⟨origin⟩⟩⟩

/-- The making of a slot counts as a put if it comes with a value, and as nothing otherwise. -/
theorem heldAfter_makingTurn (slot : String) (origin : Option V) (slots : Slots V)
    (session : List (SlotTurn V)) :
    heldAfter slot none (makingTurn slot origin slots :: session) =
      heldAfter slot origin session := by
  have horigin : heldAfter slot none [makingTurn slot origin slots] = origin := by
    cases origin with
    | none => rfl
    | some value => simp [heldAfter, history, handling?, makingTurn, Request.make, Handling.left]
  rw [heldAfter_cons, horigin]

variable [Describe V] [DecidableEq V]

theorem attempt_fill_some {slot : String} {value : V} {slots : Slots V} {held : Option V}
    (h : slots.get? slot = some ⟨held⟩) :
    attempt (.fill slot value) slots = (slots.insert slot (new value),
      ⟨if held.isSome then [.reported .slotOverwritten] else [], .returned (some .done)⟩) := by
  rw [attempt, withSlot_some h]
  cases held <;> rfl

theorem attempt_read_full {form : Form} {slot : String} {value : V} {slots : Slots V}
    (h : slots.get? slot = some ⟨some value⟩) :
    attempt (.read form slot) slots = (slots.insert slot empty, pure (some (.value value))) := by
  rw [attempt, withSlot_some h]
  rfl

theorem attempt_read_empty {form : Form} {slot : String} {slots : Slots V}
    (h : slots.get? slot = some ⟨none⟩) :
    attempt (.read form slot) slots = (slots, Run.refuse .alreadyConsumed) := by
  rw [attempt, withSlot_some h]
  rfl

/-- A request that names the slot, but neither reads, fills nor makes it, is answered quietly. -/
theorem attempt_returns {slot : String} {request : Request V} {slots : Slots V} {unique : Unique V}
    (hslot : slots.get? slot = some unique) (hreads : request.reads slot = false)
    (hfills : request.fills slot = false) (hmakes : request.makes slot = false)
    (hnamed : slot ∈ request.slots) :
    ∃ reply, (attempt request slots).2 = pure reply := by
  cases request with
  | new name value => simp_all [Request.makes, Request.slots]
  | empty name => simp_all [Request.makes, Request.slots]
  | read form name => simp_all [Request.reads, Request.slots]
  | fill name value => simp_all [Request.fills, Request.slots]
  | copy name target =>
    have hne : slot ≠ target := by
      rintro rfl
      simp [Request.makes] at hmakes
    obtain rfl : slot = name := by simpa [Request.slots, hne] using hnamed
    rw [attempt, withSlot_some hslot]
    exact ⟨_, rfl⟩
  | isEmpty name | showDebug name pretty =>
    obtain rfl : slot = name := by simpa [Request.slots] using hnamed
    rw [attempt, withSlot_some hslot]
    exact ⟨_, rfl⟩
  | equal name other =>
    rw [attempt_equal]
    exact ⟨_, rfl⟩

/-- Every step on a slot that it does not make has one of the effects. -/
theorem step_effect {slot : String} (mode : FailureMode) {request : Request V} {slots : Slots V}
    {held : Option V} (hslot : slots.get? slot = some ⟨held⟩)
    (hmakes : request.makes slot = false) :
    ∃ left, (machine.step mode request slots).1.get? slot = some ⟨left⟩ ∧
      Effect slot mode held request left (machine.step mode request slots).2 := by
  by_cases hfills : request.fills slot = true
  · obtain ⟨value, rfl⟩ : ∃ value, request = .fill slot value := by
      cases request <;> simp_all [Request.fills]
    have hstep : machine.step mode (.fill slot value) slots = _ := attempt_fill_some hslot
    rw [hstep]
    exact ⟨some value, by simp [new], .filled value⟩
  by_cases hreads : request.reads slot = true
  · obtain ⟨form, rfl⟩ : ∃ form, request = .read form slot := by
      cases request <;> simp_all [Request.reads]
    unfold Machine.step
    rw [Act.inForm_fst, Act.inForm_snd]
    change ∃ left, (attempt (.read form slot) slots).1.get? slot = _ ∧
      Effect _ _ _ _ _ ((attempt (.read form slot) slots).2.inForm mode form)
    cases held with
    | some value =>
      rw [attempt_read_full hslot, Run.inForm_eq_self mode nofun]
      exact ⟨none, by simp [empty], .taken form rfl⟩
    | none =>
      rw [attempt_read_empty hslot]
      exact ⟨none, hslot, .refused form rfl rfl⟩
  have htarget : slot ∉ request.target? := by
    cases request <;> simp_all [Request.fills, Request.reads, Request.makes, Request.target?]
  refine ⟨held, (get?_attempt_of_target_ne htarget slots).trans hslot, ?_⟩
  rw [Bool.not_eq_true] at hfills hreads
  refine .passed hreads hfills hmakes fun hnamed => ?_
  obtain ⟨reply, hreply⟩ := attempt_returns hslot hreads hfills hmakes hnamed
  have hstep : (machine.step mode request slots).2 = (pure reply : Run Violation _).inForm mode _ :=
    congrArg (Run.inForm mode · request.form) hreply
  rw [hstep, Run.inForm_eq_self mode nofun]
  rfl

/-- After any turns that do not make the slot, it holds what its history says, and its account is
balanced. -/
theorem account {slot : String} {mode : FailureMode} {slots : Slots V} {held : Option V}
    (hslot : slots.get? slot = some ⟨held⟩) {session : List (SlotTurn V)}
    (h : Chained (machine.step mode) slots session)
    (hmakes : ∀ turn ∈ session, turn.request.makes slot = false) :
    ∃ left, (lastState slots (session.map Turn.report)).get? slot = some ⟨left⟩ ∧
      left = heldAfter slot held session ∧
      (if held.isSome then 1 else 0) + session.countP (·.request.fills slot) =
        session.countP (handsOut slot) + (session.flatMap (overwrites slot)).length +
          if left.isSome then 1 else 0 := by
  induction session generalizing slots held with
  | nil => exact ⟨held, hslot, rfl, by simp⟩
  | cons turn rest ih =>
    obtain ⟨rfl, hreport, hrest⟩ := h
    obtain ⟨middle, hmiddle, heffect⟩ := step_effect mode hslot (hmakes turn List.mem_cons_self)
    have hstate : turn.report.state = (machine.step mode turn.request turn.before).1 :=
      congrArg Report.state hreport
    have hrun : turn.report.run = (machine.step mode turn.request turn.before).2 :=
      congrArg Report.run hreport
    rw [← hstate] at hmiddle
    rw [← hrun] at heffect
    obtain ⟨left, hleft, hlast, hbalance⟩ :=
      ih hmiddle hrest fun other hmem => hmakes other (List.mem_cons_of_mem turn hmem)
    refine ⟨left, hleft, ?_, ?_⟩
    · rw [heldAfter_cons, hlast, heffect.left_eq]
    · have hturn := heffect.balance
      rw [List.countP_cons, List.countP_cons, List.flatMap_cons, List.length_append]
      omega

/-- A read is answered with what the slot holds by its history, and refused if that is nothing. -/
theorem read_follows_history {slot : String} {mode : FailureMode} {slots : Slots V}
    {held : Option V} (hslot : slots.get? slot = some ⟨held⟩) {earlier later : List (SlotTurn V)}
    {turn : SlotTurn V} (h : Chained (machine.step mode) slots (earlier ++ turn :: later))
    (hmakes : ∀ other ∈ earlier, other.request.makes slot = false) {form : Form}
    (hread : turn.request = .read form slot) :
    (∀ v, turn.report.run = pure (some (.value v)) ↔ heldAfter slot held earlier = some v) ∧
      (turn.report.run = (Run.refuse .alreadyConsumed).inForm mode form ↔
        heldAfter slot held earlier = none) := by
  obtain ⟨hearlier, hbefore, hreport, -⟩ := Session.chained_append.1 h
  obtain ⟨content, hcontent, hheld, -⟩ := account hslot hearlier hmakes
  have hkeeps : turn.request.makes slot = false := by
    rw [hread]
    rfl
  obtain ⟨left, -, heffect⟩ := step_effect mode hcontent hkeeps
  have hrun : turn.report.run = (machine.step mode turn.request _).2 := congrArg Report.run hreport
  rw [← hrun, hread] at heffect
  rw [← hheld]
  generalize turn.report.run = run at heffect
  cases heffect with
  | @taken _ value hfull =>
    refine ⟨fun v => ?_, iff_of_false (fun hrefused => ?_) (by simp [hfull])⟩
    · rw [hfull]
      constructor
      · rintro ⟨⟩
        rfl
      · rintro ⟨⟩
        rfl
    · exact absurd (refused_read hrefused).1 (by simp [Outcome.isReturned])
  | refused _ hempty hrefused =>
    refine ⟨fun v => iff_of_false (fun hanswer => ?_) (by simp [hempty]),
      iff_of_true hrefused hempty⟩
    have hnot := (refused_read hrefused).1
    rw [hanswer] at hnot
    cases hnot
  | passed hreads => simp [Request.reads] at hreads

theorem turns_make (slot : String) (origin : Option V) (slots : Slots V)
    (requests : List (Request V)) :
    turns (machine.step .panic) slots (.make slot origin :: requests) =
      makingTurn slot origin slots ::
        turns (machine.step .panic) (slots.insert slot ⟨origin⟩) requests := by
  have hstep : machine.step .panic (.make slot origin) slots =
      (slots.insert slot ⟨origin⟩, pure (some .done)) := by
    cases origin <;> rfl
  rw [turns_panic_cons, hstep]
  rfl

section Making

variable {mode : FailureMode} {slot : String} {origin : Option V} {slots : Slots V}
  {rest : List (SlotTurn V)}

/-- The account of a slot begins with its making. -/
theorem balance_from_making
    (h : Chained (machine.step mode) (slots.insert slot ⟨origin⟩) rest)
    (hmakes : ∀ turn ∈ rest, turn.request.makes slot = false) :
    let session := makingTurn slot origin slots :: rest
    ∃ unique, (lastState slots (session.map Turn.report)).get? slot = some unique ∧
      (if origin.isSome then 1 else 0) + rest.countP (·.request.fills slot) =
        session.countP (handsOut slot) + (session.flatMap (overwrites slot)).length +
          if unique.isEmpty then 0 else 1 := by
  intro session
  have hmade : (slots.insert slot ⟨origin⟩).get? slot = some ⟨origin⟩ := by simp
  obtain ⟨left, hleft, -, hbalance⟩ := account hmade h hmakes
  have hhands : handsOut slot (makingTurn slot origin slots) = false := by cases origin <;> rfl
  have hlost : overwrites slot (makingTurn slot origin slots) = [] := ite_self _
  refine ⟨⟨left⟩, hleft, ?_⟩
  rw [List.countP_cons, hhands, List.flatMap_cons, hlost, List.nil_append, hbalance]
  cases left <;> simp [isEmpty]

/-- The history of a slot begins with its making. -/
theorem read_follows_making
    (h : Chained (machine.step mode) (slots.insert slot ⟨origin⟩) rest)
    (hmakes : ∀ turn ∈ rest, turn.request.makes slot = false)
    {earlier later : List (SlotTurn V)} {turn : SlotTurn V} {form : Form}
    (hsplit : makingTurn slot origin slots :: rest = earlier ++ turn :: later)
    (hread : turn.request = .read form slot) :
    let last := (history slot earlier).getLast?
    (∀ v, turn.report.run = pure (some (.value v)) ↔ last = some (.put v)) ∧
      (turn.report.run = (Run.refuse .alreadyConsumed).inForm mode form ↔
        ∀ v, last ≠ some (.put v)) := by
  intro last
  have hmade : (slots.insert slot ⟨origin⟩).get? slot = some ⟨origin⟩ := by simp
  rcases List.cons_eq_append_iff.1 hsplit with ⟨-, hfirst⟩ | ⟨between, rfl, hrest⟩
  · -- The first turn makes the slot, and is no read.
    obtain ⟨rfl, -⟩ := List.cons.inj hfirst
    cases origin <;> cases hread
  · rw [hrest] at h hmakes
    obtain ⟨hvalue, hrefused⟩ := read_follows_history hmade h
      (fun other hmem => hmakes other (List.mem_append_left _ hmem)) hread
    rw [← heldAfter_makingTurn slot origin slots] at hvalue hrefused
    have hlast : ∀ v, heldAfter slot none (makingTurn slot origin slots :: between) = some v ↔
        last = some (.put v) := fun v => heldAfter_none_eq_some_iff
    refine ⟨fun v => (hvalue v).trans (hlast v), hrefused.trans ?_⟩
    rw [Option.eq_none_iff_forall_ne_some]
    exact forall_congr' fun v => not_congr (hlast v)

end Making

/-- In panic mode, a slot loses nothing silently. Among the requests of a session that begins with
making it and does not make it again, whatever it asks of this and of other slots, every value that
was put in has been handed out by a read, was reported as overwritten, or is still there. A read
hands out what was put in last, and is refused if that has been handed out before, or if nothing was
put in. From any workspace, requests that keep to a group of slots are answered as they would be
alone, if the other requests change nothing in the group. -/
theorem slot_loses_nothing_silently (slots : Slots V) (slot : String) (origin : Option V)
    (requests : List (Request V)) (hmakes : ∀ request ∈ requests, request.makes slot = false) :
    let session := turns (machine.step .panic) slots (.make slot origin :: requests)
    session.map Turn.request = .make slot origin :: requests ∧
      (∃ unique, (lastState slots (session.map Turn.report)).get? slot = some unique ∧
        (if origin.isSome then 1 else 0) + requests.countP (Request.fills slot) =
          session.countP (handsOut slot) + (session.flatMap (overwrites slot)).length +
            if unique.isEmpty then 0 else 1) ∧
      (∀ earlier turn later form, session = earlier ++ turn :: later →
        turn.request = .read form slot →
          let last := (history slot earlier).getLast?
          (∀ v, turn.report.run = pure (some (.value v)) ↔ last = some (.put v)) ∧
          (turn.report.run = (Run.refuse .alreadyConsumed).inForm .panic form ↔
            ∀ v, last ≠ some (.put v))) ∧
      ∀ (start : Slots V) (group : List String) (others : List (Request V)),
        (∀ request ∈ others,
          request.keepsTo group = true ∨ ∀ target ∈ request.target?, target ∉ group) →
        ((turns (machine.step .panic) start others).filter (·.request.keepsTo group)).map
            (fun turn => (turn.request, turn.report.run)) =
          (turns (machine.step .panic) start (others.filter (Request.keepsTo group))).map
            fun turn => (turn.request, turn.report.run) := by
  intro session
  let rest := turns (machine.step .panic) (slots.insert slot ⟨origin⟩) requests
  have hsession : session = makingTurn slot origin slots :: rest :=
    turns_make slot origin slots requests
  have hrequests : rest.map Turn.request = requests :=
    Session.map_request_turns live_step_panic _ requests
  have hchained : Chained (machine.step .panic) (slots.insert slot ⟨origin⟩) rest :=
    Session.chained_turns _ requests
  have hkept : ∀ turn ∈ rest, turn.request.makes slot = false := fun turn hmem =>
    hmakes _ (hrequests ▸ List.mem_map_of_mem hmem)
  have hfills : requests.countP (Request.fills slot) = rest.countP (·.request.fills slot) := by
    rw [← hrequests, List.countP_map]
    rfl
  rw [hsession, hfills]
  refine ⟨congrArg (List.cons _) hrequests, balance_from_making hchained hkept, ?_, ?_⟩
  · intro earlier turn later form hsplit hread
    exact read_follows_making hchained hkept hsplit hread
  · intro start group others hothers
    exact group_answered_alone hothers fun _ _ => rfl

def juggling : List (Request String) :=
  [.fill "spare" "blue", .copy "spare" "clone", .read .checked "spare", .read .failFast "clone",
    .read .failFast "spare"]

/-- The value that was overwritten is reported, and the other is handed out once, although the copy
of the slot hands it out too. -/
theorem juggled_value_is_handed_out_once :
    let session := turns (machine.step .panic) Named.empty (.make "spare" (some "red") :: juggling)
    (∀ request ∈ juggling, request.makes "spare" = false) ∧
      session.map Turn.request = .make "spare" (some "red") :: juggling ∧
      session.flatMap (overwrites "spare") = [.slotOverwritten] ∧
      session.countP (handsOut "spare") = 1 := by
  intro session
  have hmakes : ∀ request ∈ juggling, request.makes "spare" = false := by decide
  obtain ⟨hrequests, ⟨unique, hunique, hbalance⟩, -, -⟩ :=
    slot_loses_nothing_silently Named.empty "spare" (some "red") juggling hmakes
  have hlost : session.flatMap (overwrites "spare") = [.slotOverwritten] := by decide
  have hempty : (lastState Named.empty (session.map Turn.report)).get? "spare" = some empty := by
    decide
  have hfills : juggling.countP (Request.fills "spare") = 1 := by decide
  obtain rfl : unique = empty := Option.some.inj (hunique.symm.trans hempty)
  refine ⟨hmakes, hrequests, hlost, ?_⟩
  rw [hlost, hfills] at hbalance
  simpa [isEmpty, empty] using hbalance.symm

end RuntimeContracts.Unique

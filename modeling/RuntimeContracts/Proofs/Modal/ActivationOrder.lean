import Mathlib.Data.Nat.Find
import RuntimeContracts.Proofs.Modal.Refinement
import RuntimeContracts.Proofs.Modal.Release

/-!
# The order in which violations are reported

A refused write names the first active condition that fails, and conditions become active when a
write triggers them, whenever they were registered. So a refusal follows the order of activation;
it follows the order of registration only among the conditions that were activated together.
-/

namespace RuntimeContracts

namespace Lifecycle

variable {V : Type} {l : Lifecycle V} {v : V} {place since : Nat} {r : Registration V}

/-- Of the active registrations that do not pass, the one at the place was activated first; of those
that were activated in the same turn, it was registered first. -/
structure FirstRejecting (l : Lifecycle V) (v : V) (place since : Nat) (r : Registration V) :
    Prop where
  registered : l.registrations[place]? = some r
  phase : r.phase = .active since
  rejects : ¬ r.condition.Passes v
  first : ∀ place' since' r', l.registrations[place']? = some r' → r'.phase = .active since' →
    ¬ r'.condition.Passes v → since < since' ∨ since = since' ∧ place ≤ place'

def ActivatedInOrder (l : Lifecycle V) : Prop :=
  ∀ {place place' since since' : Nat} {r r' : Registration V}, l.registrations[place]? = some r →
    l.registrations[place']? = some r' → r.phase = .active since → r'.phase = .active since' →
      place < place' → since ≤ since'

theorem FirstRejecting.le_of_activatedInOrder (h : l.FirstRejecting v place since r)
    (horder : l.ActivatedInOrder) {place' : Nat} {r' : Registration V}
    (hregistered : l.registrations[place']? = some r') (hactive : r'.phase.isActive)
    (hrejects : ¬ r'.condition.Passes v) : place ≤ place' := by
  cases hphase : r'.phase with
  | pending | discarded => simp [hphase, Phase.isActive] at hactive
  | active since' =>
    have hfirst := h.first place' since' r' hregistered hphase hrejects
    have hactivated := horder hregistered h.registered hphase h.phase
    omega

theorem exists_firstRejecting
    (h : ∃ r ∈ l.registrations, r.phase.isActive ∧ ¬ r.condition.Passes v) :
    ∃ place since r, l.FirstRejecting v place since r := by
  have hsince : ∃ since, ∃ r ∈ l.registrations, r.phase = .active since ∧
      ¬ r.condition.Passes v := by
    obtain ⟨r, hmem, hactive, hrejects⟩ := h
    cases hphase : r.phase with
    | pending | discarded => simp [hphase, Phase.isActive] at hactive
    | active since => exact ⟨since, r, hmem, hphase, hrejects⟩
  -- First the least turn, then the first registration of that turn.
  obtain ⟨r₀, hmem₀, hphase₀, hrejects₀⟩ := Nat.find_spec hsince
  have hleast := fun since' => Nat.find_min' hsince (m := since')
  generalize Nat.find hsince = since at hphase₀ hleast
  rcases forall_or_exists_first (fun r : Registration V => r.phase = .active since →
    r.condition.Passes v) l.registrations with hall | ⟨earlier, r, rest, hsplit, hearlier, hr⟩
  · exact absurd (hall r₀ hmem₀ hphase₀) hrejects₀
  · obtain ⟨hphase, hrejects⟩ := Classical.not_imp.1 hr
    refine ⟨earlier.length, since, r, by rw [hsplit]; simp, hphase, hrejects, ?_⟩
    intro place' since' r' hregistered hphase' hrejects'
    have hle : since ≤ since' :=
      hleast since' ⟨r', List.mem_of_getElem? hregistered, hphase', hrejects'⟩
    rcases Nat.lt_or_eq_of_le hle with hlt | rfl
    · exact .inl hlt
    · refine .inr ⟨rfl, Nat.le_of_not_lt fun hplace => ?_⟩
      rw [hsplit, List.getElem?_append_left hplace] at hregistered
      exact hrejects' (hearlier r' (List.mem_of_getElem? hregistered) hphase')

open Registration

/-- The active conditions that were activated before the turn, or in it and registered before the
place. -/
def activeBefore (l : Lifecycle V) (since place : Nat) : List (Condition V) :=
  ((List.range since).flatMap fun turn => inPhase (.active turn) l.registrations) ++
    inPhase (.active since) (l.registrations.take place)

theorem exists_of_mem_activeBefore {c : Condition V} (hmem : c ∈ l.activeBefore since place) :
    ∃ place' since' r, l.registrations[place']? = some r ∧ r.phase = .active since' ∧
      r.condition = c ∧ (since' < since ∨ since' = since ∧ place' < place) := by
  rcases List.mem_append.1 hmem with hearlier | htogether
  · obtain ⟨since', hturn, hgroup⟩ := List.mem_flatMap.1 hearlier
    obtain ⟨r, hr, hphase, hcondition⟩ := mem_inPhase.1 hgroup
    obtain ⟨place', hplace⟩ := List.mem_iff_getElem?.1 hr
    exact ⟨place', since', r, hplace, hphase, hcondition, .inl (List.mem_range.1 hturn)⟩
  · obtain ⟨r, hr, hphase, hcondition⟩ := mem_inPhase.1 htogether
    obtain ⟨place', hplace⟩ := List.mem_iff_getElem?.1 hr
    have hlt : place' < place :=
      Nat.lt_of_lt_of_le (List.getElem?_eq_some_iff.1 hplace).1 (List.length_take_le ..)
    rw [List.getElem?_take_of_lt hlt] at hplace
    exact ⟨place', since, r, hplace, hphase, hcondition, .inr ⟨rfl, hlt⟩⟩

theorem exists_active_eq (hregistered : l.registrations[place]? = some r)
    (hphase : r.phase = .active since) :
    ∃ rest, l.active = l.activeBefore since place ++ r.condition :: rest := by
  obtain ⟨later, hturn⟩ : ∃ later, l.turn = since + (later + 1) :=
    Nat.exists_eq_add_of_lt (l.since_lt r (List.mem_of_getElem? hregistered) since hphase)
  obtain ⟨hplace, hr⟩ := List.getElem?_eq_some_iff.1 hregistered
  have hregistrations : l.registrations =
      l.registrations.take place ++ r :: l.registrations.drop (place + 1) := by
    rw [← hr, List.getElem_cons_drop, List.take_append_drop]
  have hgroup : inPhase (.active since) l.registrations =
      inPhase (.active since) (l.registrations.take place) ++
        r.condition :: inPhase (.active since) (l.registrations.drop (place + 1)) := by
    conv_lhs => rw [hregistrations]
    simp [inPhase, hphase]
  unfold active activeBefore
  rw [hturn, List.range_add, List.range_succ_eq_map, List.flatMap_append, List.map_cons,
    List.flatMap_cons, Nat.add_zero, hgroup]
  simp only [List.append_assoc, List.cons_append]
  exact ⟨_, rfl⟩

/-- The conditions in front of it in the active list pass. -/
theorem FirstRejecting.passes (h : l.FirstRejecting v place since r) :
    ∀ c ∈ l.activeBefore since place, c.Passes v := by
  intro c hmem
  obtain ⟨place', since', r', hregistered, hphase, rfl, hbefore⟩ := exists_of_mem_activeBefore hmem
  by_contra hrejects
  have hfirst := h.first place' since' r' hregistered hphase hrejects
  omega

end Lifecycle

namespace Modal

variable {V : Type} [Describe V] {modal : Modal V} {v : V}

/-- A refused write is the violation of the first active condition that does not pass. -/
theorem write_refused_of_split {earlier rest : List (Condition V)} {c : Condition V} {e : Violation}
    (hsplit : modal.active = earlier ++ c :: rest) (hearlier : ∀ b ∈ earlier, b.Passes v)
    (hc : ¬ c.Passes v) (hrefused : (write v modal).2.outcome = .refused e) :
    ∃ reason, c.FailsWith v reason ∧ e = c.violation v reason := by
  have hstop : (checkAll v modal.active).outcome = (c.demand v).outcome := by
    rw [checkAll_eq_each, hsplit, Run.each_of_stopped
      (fun b hmem => Condition.demand_returned_iff.2 (hearlier b hmem))
      (mt Condition.demand_returned_iff.1 hc)]
  rw [write_eq_accessing] at hrefused
  rcases Condition.demand_ends hc with ⟨reason, hfails, ho⟩ | ⟨text, ho⟩
  · have hchecks : (modal.writeChecks v).outcome = .refused (c.violation v reason) := by
      rw [writeChecks, Run.bind_of_refused (hstop.trans ho)]
    rw [accessing_of_refused hchecks] at hrefused
    cases hrefused
    exact ⟨reason, hfails, rfl⟩
  · have hchecks : (modal.writeChecks v).outcome = .panicked text := by
      rw [writeChecks, Run.bind_of_panicked (hstop.trans ho)]
    rw [accessing_of_panicked hchecks] at hrefused
    cases hrefused

end Modal

namespace Lifecycle

open Session

variable {V : Type} [Describe V] {l : Lifecycle V} {modal : Modal V}

theorem Describes.refused_by_first (h : l.Describes modal) {v : V} {e : Violation}
    (hrefused : (Modal.write v modal).2.outcome = .refused e)
    (hrejected : ∃ r ∈ l.registrations, r.phase.isActive ∧ ¬ r.condition.Passes v) :
    ∃ place since r reason, l.FirstRejecting v place since r ∧ r.condition.FailsWith v reason ∧
      e = r.condition.violation v reason := by
  obtain ⟨place, since, r, hfirst⟩ := exists_firstRejecting hrejected
  obtain ⟨rest, hsplit⟩ := exists_active_eq hfirst.registered hfirst.phase
  rw [← h.active] at hsplit
  obtain ⟨reason, hfails, he⟩ :=
    Modal.write_refused_of_split hsplit hfirst.passes hfirst.rejects hrefused
  exact ⟨place, since, r, reason, hfirst, hfails, he⟩

/-- After any run in which nothing panics, a write that some active condition rejects is refused
with the one of them that was activated first. It is the one that was registered first if no
condition was activated before one that was registered earlier. -/
theorem refusals_follow_activation (mode : FailureMode) (value : V)
    (conditions : List (Condition V)) (requests : List (Modal.Request V))
    (hquiet : Modal.machine.Along (fun request s =>
      (Modal.machine.attempt request s).2.outcome.isPanicked = false)
      (some (Modal.new value conditions)) requests) :
    let l := (new value conditions).run requests
    ∃ modal, finalState (Modal.machine.step mode) (some (Modal.new value conditions)) requests =
        some modal ∧ l.Describes modal ∧
      ∀ form v e, (Modal.machine.attempt (.write form v) (some modal)).2.outcome = .refused e →
        (∃ r ∈ l.registrations, r.phase.isActive ∧ ¬ r.condition.Passes v) →
          ∃ place since r reason, l.FirstRejecting v place since r ∧
            r.condition.FailsWith v reason ∧ e = r.condition.violation v reason ∧
            (l.ActivatedInOrder → ∀ place' r', l.registrations[place']? = some r' →
              r'.phase.isActive → ¬ r'.condition.Passes v → place ≤ place') := by
  intro l
  obtain ⟨modal, hfinal, hdescribes, -⟩ :=
    (describes_new value conditions).run (Modal.enforced_new value conditions) hquiet
  refine ⟨modal, hfinal, hdescribes, fun form v e hattempt hrejected => ?_⟩
  have hrefused : (Modal.write v modal).2.outcome = .refused e := by
    change (Modal.attempt (.write form v) (some modal)).2.outcome = .refused e at hattempt
    rw [Modal.attempt_write_some] at hattempt
    exact Outcome.map_eq_refused_iff.1 hattempt
  obtain ⟨place, since, r, reason, hfirst, hfails, he⟩ :=
    hdescribes.refused_by_first hrefused hrejected
  exact ⟨place, since, r, reason, hfirst, hfails, he, fun horder place' r' hregistered =>
    hfirst.le_of_activatedInOrder horder hregistered⟩

def blank : Predicate String := .named "blank" fun text => .ok (text == "blank")

def published : Condition String :=
  .ofRequirement "published" (.named "final" fun text => .ok (text == "final")) (.negate blank)

def drafted : Condition String :=
  .ofRequirement "drafted" (.named "draft" fun text => .ok (text == "draft")) (.negate blank)

def editing : List (Modal.Request String) := [.write .checked "draft", .write .checked "final"]

theorem quiet_editing : Modal.machine.Along (fun request s =>
    (Modal.machine.attempt request s).2.outcome.isPanicked = false)
    (some (Modal.new "" [published, drafted])) editing :=
  ⟨by decide, by decide, trivial⟩

/-- Of the two conditions that reject a blank text, the second one was activated first. -/
theorem refusals_follow_activation_editing :
    let l := (new "" [published, drafted]).run editing
    Modal.machine.Along (fun request s =>
        (Modal.machine.attempt request s).2.outcome.isPanicked = false)
        (some (Modal.new "" [published, drafted])) editing ∧
      ¬ published.Passes "blank" ∧
      ∃ since r reason, l.FirstRejecting "blank" 1 since r ∧ r.condition.FailsWith "blank" reason ∧
        drafted.violation "blank" (Condition.unsatisfiedReason blank.negate) =
          r.condition.violation "blank" reason := by
  intro l
  obtain ⟨modal, hfinal, -, hrefusals⟩ :=
    refusals_follow_activation .panic "" [published, drafted] editing quiet_editing
  have hmodal : (⟨"final", [], [drafted, published]⟩ : Modal String) = modal :=
    Option.some.inj hfinal
  subst hmodal
  have hrejected : ∃ r ∈ l.registrations, r.phase.isActive ∧ ¬ r.condition.Passes "blank" :=
    ⟨⟨published, .active 1⟩, .head _, rfl, by decide⟩
  obtain ⟨place, since, r, reason, hfirst, hfails, he, -⟩ :=
    hrefusals .checked "blank" _ rfl hrejected
  refine ⟨quiet_editing, by decide, since, r, reason, ?_, hfails, he⟩
  -- The violation names `drafted`, which is at the second place.
  have hname : r.condition.description = "drafted" := by
    injection he with hdescription
    exact hdescription.symm
  have hregistered := hfirst.registered
  match place with
  | 0 =>
    cases hregistered
    exact absurd hname (by decide)
  | 1 => exact hfirst
  | place + 2 => cases hregistered

/-- The refusal does not name the condition that was registered first among those that fail. -/
theorem refusal_names_later_registration :
    let start := some (Modal.new "" [published, drafted])
    let final : Modal String := ⟨"final", [], [drafted, published]⟩
    let reason := Condition.unsatisfiedReason blank.negate
    Modal.machine.Along (fun request s =>
        (Modal.machine.attempt request s).2.outcome.isPanicked = false) start editing ∧
      finalState (Modal.machine.step .panic) start editing = some final ∧
      ((new "" [published, drafted]).run editing).registrations =
        [⟨published, .active 1⟩, ⟨drafted, .active 0⟩] ∧
      published.FailsWith "blank" reason ∧ drafted.FailsWith "blank" reason ∧
      (Modal.machine.attempt (.write .checked "blank") (some final)).2.outcome =
        .refused (drafted.violation "blank" reason) ∧
      drafted.violation "blank" reason ≠ published.violation "blank" reason :=
  ⟨quiet_editing, rfl, rfl, rfl, rfl, rfl, by decide⟩

end Lifecycle
end RuntimeContracts

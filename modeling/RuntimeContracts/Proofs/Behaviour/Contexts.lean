import RuntimeContracts.Proofs.Session.CallsLive

/-!
# The contexts that requests give

A behaviour receives a context by an injection into it, or by a declaration that lists it, if the
request is answered. Nothing else changes a behaviour that is there, and a context that is received
once more replaces the one before.
-/

namespace RuntimeContracts

namespace Behaviour

variable {A : Type}

def receive (context? : Option ExecutionContext) (behaviour : Behaviour A) : Behaviour A :=
  { behaviour with context := context?.or behaviour.context }

@[simp] theorem receive_none (behaviour : Behaviour A) : behaviour.receive none = behaviour := rfl

@[simp] theorem receive_some (context : ExecutionContext) (behaviour : Behaviour A) :
    behaviour.receive (some context) = behaviour.inject context := rfl

end Behaviour

namespace Declaration

variable {A : Type}

end Declaration

namespace Behaviour

variable {A : Type}

section

variable {α : Type} {id : String} {roster : Roster A} {act : Behaviour A → Step A α}

theorem withBehaviour_of_none (h : roster.behaviours.get? id = none) :
    withBehaviour id act roster = (roster, pure none) := by
  unfold withBehaviour
  rw [Act.get_bind, h]
  rfl

theorem withBehaviour_of_some {behaviour : Behaviour A}
    (h : roster.behaviours.get? id = some behaviour) :
    withBehaviour id act roster = ((act behaviour roster).1,
      ⟨(act behaviour roster).2.trace, (act behaviour roster).2.outcome.map some⟩) := by
  unfold withBehaviour
  rw [Act.get_bind, h]
  exact Act.bind_pure_apply _ _ _

end

variable [Describe A]

end Behaviour
end RuntimeContracts

import RuntimeContracts.Proofs.Behaviour.Contexts

/-!
# Finalizing declarations

A declaration is looked through before anything is injected. With a bare member it is refused, for
the first one, and every behaviour keeps the context that it had; without one, the context goes to
the behaviours that are listed and to no other. An owner is finalized as the list that it declares.
-/

namespace RuntimeContracts

namespace Declaration

variable {A : Type}

end Declaration

/-! ## Owners -/

namespace Behaviour

variable {A : Type}

variable [Describe A]

end Behaviour
end RuntimeContracts

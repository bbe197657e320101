import RuntimeContracts.Predicate.Basic

/-!
# The first failing predicate

A list of predicates is evaluated in order up to the first that fails, which is found with its place
in the list.
-/

namespace RuntimeContracts.Predicate

variable {V ε : Type}

/-- Places are counted from `start`. -/
def firstFailingFrom (v : V) (start : Nat) :
    List (Predicate V) → Run ε (Option (Nat × Predicate V))
  | [] => pure none
  | p :: rest => do
    if ← p.eval v then firstFailingFrom v (start + 1) rest else pure (some (start, p))

def firstFailing (ps : List (Predicate V)) (v : V) : Run ε (Option (Nat × Predicate V)) :=
  firstFailingFrom v 0 ps

@[simp] theorem firstFailingFrom_nil (v : V) (start : Nat) :
    (firstFailingFrom v start [] : Run ε _) = pure none := rfl

theorem firstFailingFrom_cons (v : V) (start : Nat) (p : Predicate V) (rest : List (Predicate V)) :
    (firstFailingFrom v start (p :: rest) : Run ε _) =
      p.eval v >>= fun b =>
        if b then firstFailingFrom v (start + 1) rest else pure (some (start, p)) := by
  rw [firstFailingFrom]

end RuntimeContracts.Predicate

import RuntimeContracts.Text.Shape

/-!
# State handles

A handle names a state by the graph that issued it and the place of the state there. Handles are
ordered by graph first, and by place within one graph.
-/

namespace RuntimeContracts

structure StateHandle where
  graph : Nat
  index : Nat
deriving DecidableEq, Repr

namespace StateHandle

instance : Ord StateHandle where
  compare a b := (compare a.graph b.graph).then (compare a.index b.index)

def shape (id : StateHandle) : Shape :=
  .closedRecord "StateId" [("graph", .number id.graph), ("index", .number id.index)]

instance : Describe StateHandle := ⟨shape⟩

theorem compare_def (a b : StateHandle) :
    compare a b = (compare a.graph b.graph).then (compare a.index b.index) := rfl

theorem compare_eq_eq_iff (a b : StateHandle) : compare a b = .eq ↔ a = b := by
  rw [compare_def, Ordering.then_eq_eq, Nat.compare_eq_eq, Nat.compare_eq_eq]
  cases a; cases b; simp

/-- Inserts a handle into an ascending list; a handle that is there already is not repeated. -/
def insertAscending (id : StateHandle) : List StateHandle → List StateHandle
  | [] => [id]
  | other :: rest =>
    match compare id other with
    | .lt => id :: other :: rest
    | .eq => other :: rest
    | .gt => other :: insertAscending id rest

theorem mem_insertAscending (id other : StateHandle) (ids : List StateHandle) :
    other ∈ insertAscending id ids ↔ other = id ∨ other ∈ ids := by
  induction ids with
  | nil => simp [insertAscending]
  | cons first rest ih =>
    unfold insertAscending
    split
    · simp
    · next h => grind [compare_eq_eq_iff]
    · grind

end StateHandle
end RuntimeContracts

import RuntimeContracts.Run.Basic

/-!
# Predicates

A predicate is a named test, a conjunction, or a negation. Its name is composed from the names of
its tests, and evaluating it stops at the first conjunct that fails. A test is client code: it may
panic.
-/

namespace RuntimeContracts

/-- A test with the name that predicates show and the label that traces show. -/
structure NamedTest (V : Type) where
  name : String
  label : String
  test : V → Client Bool

inductive Predicate (V : Type) where
  | test (t : NamedTest V)
  | and (left right : Predicate V)
  | negate (inner : Predicate V)

namespace Predicate

variable {V ε : Type}

def named (name : String) (test : V → Client Bool) : Predicate V := .test ⟨name, name, test⟩

/-- A test without a name of its own goes by the name of its type. -/
def anonymous (typeName : String) (test : V → Client Bool) : Predicate V :=
  .test ⟨typeName, "<anonymous>", test⟩

def name : Predicate V → String
  | .test t => t.name
  | .and left right => left.name ++ " && " ++ right.name
  | .negate inner => "!(" ++ inner.name ++ ")"

def eval (v : V) : Predicate V → Run ε Bool
  | .test t => do
    Run.emit (.tested t.label)
    Run.call (t.test v)
  | .and left right => do
    if ← eval v left then eval v right else pure false
  | .negate inner => do
    return !(← eval v inner)

/-- The conjunction of a list that starts with the given predicate, grouped to the left. -/
def conjunction (first : Predicate V) (rest : List (Predicate V)) : Predicate V :=
  rest.foldl .and first

def negateTimes : Nat → Predicate V → Predicate V
  | 0, p => p
  | k + 1, p => negateTimes k p.negate

/-- The value passes the predicate: its evaluation returns `true`. -/
def Holds (p : Predicate V) (v : V) : Prop :=
  (p.eval v : Run Empty Bool).outcome = .returned true

/-- The value fails the predicate: its evaluation returns `false`. -/
def Fails (p : Predicate V) (v : V) : Prop :=
  (p.eval v : Run Empty Bool).outcome = .returned false

def PanicsWith (p : Predicate V) (v : V) (text : String) : Prop :=
  (p.eval v : Run Empty Bool).outcome = .panicked text

def shape (p : Predicate V) : Shape := .closedRecord "Predicate" [("name", .quoted p.name)]

instance : Describe (Predicate V) := ⟨shape⟩

@[simp] theorem name_test (t : NamedTest V) : name (.test t) = t.name := rfl
@[simp] theorem name_and (p q : Predicate V) : (p.and q).name = p.name ++ " && " ++ q.name := rfl
@[simp] theorem name_negate (p : Predicate V) : p.negate.name = "!(" ++ p.name ++ ")" := rfl

theorem eval_and (v : V) (p q : Predicate V) :
    (eval v (p.and q) : Run ε Bool) =
      eval v p >>= fun b => if b then eval v q else pure false := by
  rw [eval]

theorem eval_negate (v : V) (p : Predicate V) :
    (eval v p.negate : Run ε Bool) = eval v p >>= fun b => pure !b := by
  rw [eval]

end Predicate
end RuntimeContracts

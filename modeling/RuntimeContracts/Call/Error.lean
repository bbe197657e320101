import RuntimeContracts.Diagnosis

/-!
# Call errors

A contracted call fails because a precondition rejected the arguments, the target itself failed, or
a postcondition rejected the result. The two rejections name the predicate and its place in the
list.
-/

namespace RuntimeContracts

inductive CallError (ε : Type) where
  | precondition (index : Nat) (predicate : String)
  | postcondition (index : Nat) (predicate : String)
  | target (error : ε)
deriving DecidableEq, Repr

namespace CallError

variable {ε : Type}

def isPrecondition : CallError ε → Bool
  | precondition .. => true
  | _ => false

def isPostcondition : CallError ε → Bool
  | postcondition .. => true
  | _ => false

def target? : CallError ε → Option ε
  | target error => some error
  | _ => none

def message [ToString ε] : CallError ε → String
  | precondition index predicate =>
    "precondition #" ++ toString index ++ " `" ++ predicate ++ "` not satisfied"
  | postcondition index predicate =>
    "postcondition #" ++ toString index ++ " `" ++ predicate ++ "` not satisfied"
  | target error => "wrapped callable failed: " ++ toString error

def shape [Describe ε] : CallError ε → Shape
  | precondition index predicate =>
    .closedRecord "Precondition" [("index", .number index), ("predicate", .quoted predicate)]
  | postcondition index predicate =>
    .closedRecord "Postcondition" [("index", .number index), ("predicate", .quoted predicate)]
  | target error => .tuple "Target" [Describe.shape error]

/-- Every call error is a matter of the call, never of the configuration. -/
instance [ToString ε] : Diagnosis (CallError ε) := ⟨fun _ => .call, fun _ => false, message⟩

instance [Describe ε] : Describe (CallError ε) := ⟨shape⟩

end CallError
end RuntimeContracts

import RuntimeContracts.Text.Shape

/-!
# Kinds of violations and failure modes

Every violation belongs to one of five kinds and has a message; some point at a defect in the
configuration of the contract rather than at the data. The failure mode decides how an enforced
violation stops the program: by an abort, the default, or by a panic.
-/

namespace RuntimeContracts

inductive ViolationKind where
  | construction
  | access
  | transition
  | declaration
  | call
deriving DecidableEq, Repr

namespace ViolationKind

def all : List ViolationKind := [construction, access, transition, declaration, call]

def label : ViolationKind → String
  | construction => "construction"
  | access => "access"
  | transition => "transition"
  | declaration => "declaration"
  | call => "call"

def identifier : ViolationKind → String
  | construction => "Construction"
  | access => "Access"
  | transition => "Transition"
  | declaration => "Declaration"
  | call => "Call"

end ViolationKind

inductive FailureMode where
  | abort
  | panic
deriving DecidableEq, Repr

namespace FailureMode

instance : Inhabited FailureMode := ⟨abort⟩

def all : List FailureMode := [abort, panic]

def label : FailureMode → String
  | abort => "abort"
  | panic => "panic"

def identifier : FailureMode → String
  | abort => "Abort"
  | panic => "Panic"

end FailureMode

instance : Describe ViolationKind := ⟨fun kind => .word kind.identifier⟩
instance : Describe FailureMode := ⟨fun mode => .word mode.identifier⟩

/-- What can be enforced: it has a kind and a message, and may put the configuration at fault. -/
class Diagnosis (ε : Type) where
  kind : ε → ViolationKind
  isDefect : ε → Bool
  message : ε → String

namespace Diagnosis

variable {ε δ : Type} [Diagnosis ε] [Diagnosis δ]

def stopText (e : ε) : String :=
  "contract violation (" ++ (kind e).label ++ "): " ++ message e

instance : Diagnosis (ε ⊕ δ) where
  kind := Sum.elim kind kind
  isDefect := Sum.elim isDefect isDefect
  message := Sum.elim message message

end Diagnosis
end RuntimeContracts

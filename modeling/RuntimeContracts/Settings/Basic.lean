import RuntimeContracts.Diagnosis

/-!
# Enforcement settings

The settings hold the failure mode that a host wants installed. By default a violation aborts. They
are read from text in some format, and so are the names of modes and kinds.
-/

namespace RuntimeContracts

structure Settings where
  failureMode : FailureMode
deriving DecidableEq, Repr

namespace Settings

instance : Inhabited Settings := ⟨⟨default⟩⟩

/-- The name of the only field, in settings text and descriptions. -/
def modeField : String := "failure_mode"

def withMode (settings : Settings) (mode : FailureMode) : Settings :=
  { settings with failureMode := mode }

def shape (settings : Settings) : Shape :=
  .closedRecord "EnforcementConfig" [(modeField, Describe.shape settings.failureMode)]

instance : Describe Settings := ⟨shape⟩

/-- Well-formed text can still hold a value that the setting does not take. -/
inductive ReadError where
  | malformed
  | rejected (message : String)
deriving DecidableEq, Repr

class Format where
  read : String → Except ReadError Settings
  readMode : String → Except ReadError FailureMode
  readKind : String → Except ReadError ViolationKind

end Settings
end RuntimeContracts

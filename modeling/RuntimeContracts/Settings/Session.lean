import RuntimeContracts.Call.Error
import RuntimeContracts.Session.Machine
import RuntimeContracts.Settings.Reader
import RuntimeContracts.Violation

/-!
# Sessions on the settings

A session holds settings and the failure mode that is installed. Reading settings replaces the held
ones; installing them changes how violations are enforced from then on. Texts are read in whatever
format is at hand, and the one that is provided is JSON.
-/

namespace RuntimeContracts.Settings

inductive Request (V : Type) where
  | read (text : String)
  | readMode (text : String)
  | readKind (text : String)
  | setMode (mode : FailureMode)
  | install
  | showDebug (pretty : Bool)
  | enforceValue (value : V)
  | enforceViolation (violation : Violation)
  | enforceCallError (error : CallError String)

inductive Reply (V : Type) where
  | done
  | unreadable (error : ReadError)
  | replaced (isSame : Bool)
  | mode (mode : FailureMode)
  | kind (kind : ViolationKind)
  | text (t : String)
  | value (v : V)

structure Control where
  settings : Settings
  installed : FailureMode
deriving DecidableEq, Repr

/-- Default settings are held at first, whatever is installed. -/
def Control.start (installed : FailureMode) : Control := ⟨default, installed⟩

abbrev Enforced := Violation ⊕ CallError String

variable {V : Type}

def replyTo {α : Type} (read : Except ReadError α)
    (reply : α → Act Control Enforced (Reply V)) : Act Control Enforced (Reply V) :=
  match read with
  | .ok a => reply a
  | .error error => return .unreadable error

def enforce (error : Enforced) : Act Control Enforced (Reply V) := do
  Act.lift (Run.stopWith (← Act.get).installed error)

variable [Format]

def step : Request V → Act Control Enforced (Reply V)
  | .read text => replyTo (Format.read text) fun settings => do
    let isSame := settings = (← Act.get).settings
    Act.modify ({ · with settings })
    return .replaced isSame
  | .readMode text => replyTo (Format.readMode text) fun mode => return .mode mode
  | .readKind text => replyTo (Format.readKind text) fun kind => return .kind kind
  | .setMode mode => do
    Act.modify fun control => { control with settings := control.settings.withMode mode }
    return .done
  | .install => do
    let mode := (← Act.get).settings.failureMode
    Act.modify ({ · with installed := mode })
    Act.lift (Run.report (.settingsInstalled mode))
    return .done
  | .showDebug pretty => return .text ((← Act.get).settings.shape.render pretty)
  | .enforceValue value => return .value value
  | .enforceViolation violation => enforce (.inl violation)
  | .enforceCallError error => enforce (.inr error)

def session : Control → List (Request V) → List (Report Control Enforced (Reply V)) :=
  Session.reports step

end RuntimeContracts.Settings

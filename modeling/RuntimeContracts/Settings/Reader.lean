import RuntimeContracts.Settings.Scanner

/-!
# Reading settings text

A choice between names is a string, or an object whose one key is the name and whose value is null.
Settings are an object, in which unknown keys are skipped, or an array of at most one mode. A value
of the wrong type, an unknown name and a repeated key are rejected where they are met.
-/

namespace RuntimeContracts.Settings

/-- Types whose values are chosen by name. -/
class Choice (α : Type) where
  all : List α
  label : α → String

instance : Choice FailureMode := ⟨FailureMode.all, FailureMode.label⟩
instance : Choice ViolationKind := ⟨ViolationKind.all, ViolationKind.label⟩

namespace Scanner

variable {α : Type}

def describeNumber : Number → String
  | .integer n => "integer `" ++ toString n ++ "`"
  | .float x => "floating point `" ++ Text.writeDouble x ++ "`"

def describeNext : Scanner String := do
  match ← peek with
  | some 'n' =>
    word "null"
    return "null"
  | some 't' =>
    word "true"
    return "boolean `true`"
  | some 'f' =>
    word "false"
    return "boolean `false`"
  | some '"' => return "string " ++ Text.quote (← string)
  | some '[' => return "sequence"
  | some '{' => return "map"
  | some c => if startsNumber c then return describeNumber (← number) else malformed
  | none => malformed

def rejectType (expected : String) : Scanner α := do
  reject ("invalid type: " ++ (← describeNext) ++ ", expected " ++ expected)

def backquoted (label : String) : String := "`" ++ label ++ "`"

def alternatives : List String → String
  | [first, second] => backquoted first ++ " or " ++ backquoted second
  | labels => "one of " ++ ", ".intercalate (labels.map backquoted)

def choose [Choice α] (label : String) : Scanner α :=
  match (Choice.all : List α).find? (Choice.label · = label) with
  | some a => return a
  | none => reject ("unknown variant " ++ backquoted label ++ ", expected " ++
      alternatives ((Choice.all : List α).map Choice.label))

def choice [Choice α] : Scanner α := do
  match ← peek with
  | some '"' => choose (← string)
  | some '{' =>
    advance
    let a ← choose (← string)
    expect ':'
    if (← peek) = some 'n' then word "null" else rejectType "unit"
    expect '}'
    return a
  | _ => malformed

/-- Reads fields up to the closing brace; the text left over bounds their number. -/
def fields : Nat → Option FailureMode → Scanner (Option FailureMode)
  | 0, _ => malformed
  | fuel + 1, found => do
    let key ← string
    let found ←
      if key = modeField then
        if found.isSome then reject ("duplicate field " ++ backquoted modeField)
        expect ':'
        some <$> choice
      else
        expect ':'
        skipValue
        pure found
    match ← peek with
    | some ',' =>
      advance
      fields fuel found
    | some '}' =>
      advance
      return found
    | _ => malformed

def settings : Scanner Settings := do
  match ← peek with
  | some '[' =>
    advance
    if (← peek) = some ']' then
      advance
      return default
    else
      let mode ← choice
      expect ']'
      return ⟨mode⟩
  | some '{' =>
    advance
    if (← peek) = some '}' then
      advance
      return default
    else
      let found ← fields ((← get).length + 1) none
      return ⟨found.getD default⟩
  | _ => rejectType "struct EnforcementConfig"

end Scanner

def readWhole {α : Type} (scanner : Scanner α) (text : String) : Except ReadError α :=
  Scanner.scan (do
    let a ← scanner
    Scanner.finish
    return a) text

def read (text : String) : Except ReadError Settings := readWhole Scanner.settings text

def readMode (text : String) : Except ReadError FailureMode := readWhole Scanner.choice text

def readKind (text : String) : Except ReadError ViolationKind := readWhole Scanner.choice text

instance json : Format := ⟨read, readMode, readKind⟩

end RuntimeContracts.Settings

import RuntimeContracts.Settings.Basic
import RuntimeContracts.Text.Decimal

/-!
# Scanning settings text

Settings are written in JSON. The scanner's state is what is left of the text; each function takes
one token off its front, and a text that breaks the grammar is malformed wherever that shows first.
Values that nobody asked for are skipped by the grammar alone, however deep they nest.
-/

namespace RuntimeContracts.Settings

abbrev Scanner (α : Type) := StateT (List Char) (Except ReadError) α

namespace Scanner

def malformed {α : Type} : Scanner α := throw .malformed

def reject {α : Type} (message : String) : Scanner α := throw (.rejected message)

def isBlank (c : Char) : Bool := c = ' ' || c = '\n' || c = '\t' || c = '\r'

/-- The first character that is left after the blanks; it stays there. -/
def peek : Scanner (Option Char) := do
  let rest := (← get).dropWhile isBlank
  set rest
  return rest.head?

/-- The first character that is left, blank or not. -/
def peekRaw : Scanner (Option Char) := return (← get).head?

def advance : Scanner Unit := modify (·.drop 1)

/-- Takes a character that has to come next. -/
def expect (c : Char) : Scanner Unit := do
  if (← peek) = some c then advance else malformed

def word (text : String) : Scanner Unit := do
  let rest ← get
  if text.toList.isPrefixOf rest then set (rest.drop text.toList.length) else malformed

/-! ## Strings -/

def hexValue (c : Char) : Option Nat :=
  if '0' ≤ c ∧ c ≤ '9' then some (c.toNat - '0'.toNat)
  else if 'a' ≤ c ∧ c ≤ 'f' then some (c.toNat - 'a'.toNat + 10)
  else if 'A' ≤ c ∧ c ≤ 'F' then some (c.toNat - 'A'.toNat + 10)
  else none

def simpleEscape : Char → Option Char
  | '"' => some '"'
  | '\\' => some '\\'
  | '/' => some '/'
  | 'b' => some '\x08'
  | 'f' => some '\x0c'
  | 'n' => some '\n'
  | 'r' => some '\r'
  | 't' => some '\t'
  | _ => none

/-- Where a scan stands inside a string: `lead` is the first half of a pair of code units. -/
inductive StringPlace where
  | plain
  | escape (lead : Option Nat)
  | hex (digits value : Nat) (lead : Option Nat)
  | trail (lead : Nat)

def isLead (unit : Nat) : Bool := 0xD800 ≤ unit && unit ≤ 0xDBFF

def isTrail (unit : Nat) : Bool := 0xDC00 ≤ unit && unit ≤ 0xDFFF

/-- What a finished code unit amounts to: a character, or a place that waits for the second half. -/
def unitDone (unit : Nat) : Option Nat → Option (Option Char × StringPlace)
  | none =>
    if isTrail unit then none
    else if isLead unit then some (none, .trail unit)
    else some (some (Char.ofNat unit), .plain)
  | some lead =>
    if isTrail unit then
      some (some (Char.ofNat (0x10000 + (lead - 0xD800) * 0x400 + (unit - 0xDC00))), .plain)
    else none

/-- One character of a string; `none` if it cannot stand there. -/
def stringStep (c : Char) : StringPlace → Option (Option Char × StringPlace)
  | .plain =>
    if c = '\\' then some (none, .escape none)
    else if c.toNat < 0x20 then none
    else some (some c, .plain)
  | .escape lead =>
    if c = 'u' then some (none, .hex 0 0 lead)
    else if lead.isSome then none
    else (simpleEscape c).map fun d => (some d, .plain)
  | .hex digits value lead =>
    match hexValue c with
    | none => none
    | some d =>
      if digits = 3 then unitDone (16 * value + d) lead
      else some (none, .hex (digits + 1) (16 * value + d) lead)
  | .trail lead => if c = '\\' then some (none, .escape (some lead)) else none

/-- The characters up to the closing quote, last one first, and the text after it. -/
def stringRest (place : StringPlace) (done : List Char) :
    List Char → Except ReadError (List Char × List Char)
  | [] => .error .malformed
  | c :: rest =>
    if place matches .plain ∧ c = '"' then .ok (done, rest)
    else
      match stringStep c place with
      | none => .error .malformed
      | some (some d, next) => stringRest next (d :: done) rest
      | some (none, next) => stringRest next done rest

/-- A string, from its opening quote on. -/
def string : Scanner String := do
  expect '"'
  let (done, rest) ← stringRest .plain [] (← get)
  set rest
  return String.ofList done.reverse

/-- In a skipped string the halves of pairs need not match. -/
def skippedStep (c : Char) : StringPlace → Option StringPlace
  | .hex digits _ _ =>
    if (hexValue c).isNone then none
    else if digits = 3 then some .plain
    else some (.hex (digits + 1) 0 none)
  | place => (stringStep c place).map Prod.snd

def skippedRest (place : StringPlace) : List Char → Except ReadError (List Char)
  | [] => .error .malformed
  | c :: rest =>
    if place matches .plain ∧ c = '"' then .ok rest
    else
      match skippedStep c place with
      | none => .error .malformed
      | some next => skippedRest next rest

def skipString : Scanner Unit := do
  expect '"'
  set (← skippedRest .plain (← get))

/-! ## Numbers -/

inductive Number where
  | integer (n : Int)
  | float (x : Float)

def digits : Scanner (List Nat) := do
  let rest ← get
  set (rest.dropWhile Char.isDigit)
  return (rest.takeWhile Char.isDigit).map fun c => c.toNat - '0'.toNat

def someDigits : Scanner (List Nat) := do
  let ds ← digits
  if ds.isEmpty then malformed else return ds

/-- Digits of a whole number, which starts with a zero only if it is one. -/
def wholeDigits : Scanner (List Nat) := do
  let ds ← someDigits
  if ds.head? = some 0 ∧ 1 < ds.length then malformed else return ds

def takeIf (isWanted : Char → Bool) : Scanner (Option Char) := do
  match ← peekRaw with
  | some c =>
    if isWanted c then
      advance
      return some c
    else return none
  | none => return none

def isExponentMark (c : Char) : Bool := c = 'e' || c = 'E'

def isSign (c : Char) : Bool := c = '+' || c = '-'

/-- The largest number of which the digits of a number are kept. -/
def significandLimit : Nat := 0xFFFFFFFFFFFFFFFF

/-- Appends digits to a number up to the first that would exceed the limit. -/
def gather (number : Nat) : List Nat → Nat × List Nat
  | [] => (number, [])
  | d :: rest =>
    if significandLimit < 10 * number + d then (number, d :: rest)
    else gather (10 * number + d) rest

/-- Divides by powers of ten, each small enough to be a double. -/
def scaleDown : Nat → Float → Nat → Float
  | 0, x, _ => x
  | steps + 1, x, places =>
    if places ≤ 308 then x / Float.ofScientific 1 false places
    else scaleDown steps (x / 1e308) (places - 308)

/-- The double for the digits times a power of ten; too large a number is malformed. -/
def scaled (significand : Nat) (exponent : Int) : Scanner Float :=
  let x := significand.toUInt64.toFloat
  if exponent < 0 then return scaleDown 4 x exponent.natAbs
  else if significand = 0 then return 0
  else if 308 < exponent then malformed
  else
    let y := x * Float.ofScientific 1 false exponent.toNat
    if y.isInf then malformed else return y

/-- A number without its sign: the digits kept, the power of ten, and if it is written whole. -/
structure NumberParts where
  significand : Nat
  exponent : Int
  isWhole : Bool

def fractionPart (parts : NumberParts) : Scanner NumberParts := do
  match ← takeIf (· = '.') with
  | none => return parts
  | some _ =>
    let ds ← someDigits
    let (significand, left) := gather parts.significand ds
    return ⟨significand, parts.exponent - (ds.length - left.length), false⟩

/-- An exponent beyond this bound leaves no finite number but zero. -/
def exponentLimit : Nat := 0x7FFFFFFF

def exponentPart (parts : NumberParts) : Scanner NumberParts := do
  match ← takeIf isExponentMark with
  | none => return parts
  | some _ =>
    let sign ← takeIf isSign
    let ds ← someDigits
    let shift := ds.foldl (fun n d => 10 * n + d) 0
    if sign = some '-' then
      if exponentLimit < shift then return ⟨0, 0, false⟩
      else return ⟨parts.significand, parts.exponent - shift, false⟩
    else if exponentLimit < shift then
      if parts.significand = 0 then return ⟨0, 0, false⟩ else malformed
    else return ⟨parts.significand, parts.exponent + shift, false⟩

/-- The largest number whose negative fits a signed machine word. -/
def negativeLimit : Nat := 0x8000000000000000

/-- A number is an integer if it is written whole and fits a machine word of its sign. -/
def number : Scanner Number := do
  let negative := (← takeIf (· = '-')).isSome
  let (significand, left) := gather 0 (← wholeDigits)
  let parts ← exponentPart (← fractionPart ⟨significand, left.length, left.isEmpty⟩)
  if parts.isWhole ∧ !negative then return .integer parts.significand
  else if parts.isWhole ∧ 0 < parts.significand ∧ parts.significand ≤ negativeLimit then
    return .integer (-(parts.significand : Int))
  else
    let x ← scaled parts.significand parts.exponent
    return .float (if negative then -x else x)

/-- In a skipped number only the grammar counts. -/
def skipNumber : Scanner Unit := do
  discard (takeIf (· = '-'))
  discard wholeDigits
  if (← takeIf (· = '.')).isSome then discard someDigits
  if (← takeIf isExponentMark).isSome then
    discard (takeIf isSign)
    discard someDigits

/-! ## Values -/

def startsNumber (c : Char) : Bool := c = '-' || c.isDigit

mutual

/-- Skips a value. No two calls in a row go on without taking a character. -/
def skipWithin : Nat → Scanner Unit
  | 0 => malformed
  | fuel + 1 => do
    match ← peek with
    | some 'n' => word "null"
    | some 't' => word "true"
    | some 'f' => word "false"
    | some '"' => skipString
    | some '[' =>
      advance
      if (← peek) = some ']' then advance else skipItems fuel
    | some '{' =>
      advance
      if (← peek) = some '}' then advance else skipFields fuel
    | some c => if startsNumber c then skipNumber else malformed
    | none => malformed

def skipItems : Nat → Scanner Unit
  | 0 => malformed
  | fuel + 1 => do
    skipWithin fuel
    match ← peek with
    | some ',' =>
      advance
      skipItems fuel
    | some ']' => advance
    | _ => malformed

def skipFields : Nat → Scanner Unit
  | 0 => malformed
  | fuel + 1 => do
    skipString
    expect ':'
    skipWithin fuel
    match ← peek with
    | some ',' =>
      advance
      skipFields fuel
    | some '}' => advance
    | _ => malformed

end

def skipValue : Scanner Unit := do
  skipWithin (2 * (← get).length + 2)

/-- Nothing but blanks may be left. -/
def finish : Scanner Unit := do
  if (← peek).isSome then malformed

def scan {α : Type} (scanner : Scanner α) (text : String) : Except ReadError α :=
  (scanner.run text.toList).map Prod.fst

end Scanner
end RuntimeContracts.Settings

import RuntimeContracts.Run.Basic
import RuntimeContracts.Script.Value

/-!
# Scripted tests

A small language of tests on values. A test of a value of another type than it expects is false, and
a test may panic with a text of its own.
-/

namespace RuntimeContracts.Script

inductive Comparison where
  | lt
  | le
  | gt
  | ge
  | eq
deriving DecidableEq, Repr

def Comparison.holds (comparison : Comparison) (a b : Int) : Bool :=
  match comparison with
  | lt => a < b
  | le => a ≤ b
  | gt => b < a
  | ge => b ≤ a
  | eq => a = b

inductive Test where
  | always (answer : Bool)
  | panic (text : String)
  | equals (v : Value)
  | compares (comparison : Comparison) (n : Int64)
  | remainder (divisor rest : Int64)
  | length (comparison : Comparison) (n : Int64)
  | starts (start : String)
  | item (index : Int64) (t : Test)
  | choose (condition accept reject : Test)

namespace Test

/-- The item of a list at a place that is not negative. -/
def itemAt? (index : Int64) (items : List Value) : Option Value :=
  if index.toInt < 0 then none else items[index.toInt.toNat]?

/-- The sign of a remainder is that of the dividend; there is none for the divisor zero. -/
def hasRemainder (n divisor rest : Int64) : Bool :=
  divisor ≠ 0 && n.toInt.tmod divisor.toInt = rest.toInt

def eval : Test → Value → Client Bool
  | always answer, _ => .ok answer
  | panic text, _ => .error text
  | equals v, w => .ok (w = v)
  | compares comparison n, .int m => .ok (comparison.holds m.toInt n.toInt)
  | compares .., _ => .ok false
  | remainder divisor rest, .int m => .ok (hasRemainder m divisor rest)
  | remainder .., _ => .ok false
  | length comparison n, v =>
    match v.length? with
    | some size => .ok (comparison.holds size n.toInt)
    | none => .ok false
  | starts start, .text s => .ok (start.toList.isPrefixOf s.toList)
  | starts _, _ => .ok false
  | item index t, .list items =>
    match itemAt? index items with
    | some v => t.eval v
    | none => .ok false
  | item .., _ => .ok false
  | choose condition accept reject, v => do
    if ← condition.eval v then accept.eval v else reject.eval v

/-- The reason with the value's description in every place that is marked for it. -/
def fillReason (value : List Char) : List Char → List Char
  | '\x7b' :: 'v' :: '\x7d' :: rest => value ++ fillReason value rest
  | c :: rest => c :: fillReason value rest
  | [] => []

/-- A check that fails with the filled-in reason where the test is false. -/
def check (t : Test) (reason : String) (v : Value) : Client (Option String) := do
  if ← t.eval v then return none
  else return some (String.ofList (fillReason (describe v).toList reason.toList))

end Test
end RuntimeContracts.Script

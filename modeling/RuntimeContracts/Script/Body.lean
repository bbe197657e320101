import RuntimeContracts.Script.Test

/-!
# Scripted bodies

A small language of functions on values, for targets and behaviours. A body may fail with an error
or panic; an argument of the wrong type gives unit. Arithmetic wraps around at 64 bits.
-/

namespace RuntimeContracts.Script

inductive Body where
  | identity
  | const (v : Value)
  | add (n : Int64)
  | mul (n : Int64)
  | length
  | repeatText
  | fail (error : String)
  | panic (text : String)
  | choose (condition : Test) (accept reject : Body)

namespace Body

/-- A negative count repeats nothing. -/
def repeated (count : Int64) (s : String) : String :=
  String.join (List.replicate count.toInt.toNat s)

def eval : Body → Value → Client (Except String Value)
  | identity, v => .ok (.ok v)
  | const v, _ => .ok (.ok v)
  | add n, .int m => .ok (.ok (.int (m + n)))
  | mul n, .int m => .ok (.ok (.int (m * n)))
  | length, v =>
    match v.length? with
    | some size => .ok (.ok (.int (Int64.ofNat size)))
    | none => .ok (.ok .unit)
  | repeatText, .list [.int count, .text s] => .ok (.ok (.text (repeated count s)))
  | add _, _ | mul _, _ | repeatText, _ => .ok (.ok .unit)
  | fail error, _ => .ok (.error error)
  | panic text, _ => .error text
  | choose condition accept reject, v => do
    if ← condition.eval v then accept.eval v else reject.eval v

/-- The body as a target that cannot fail; an error counts as unit. -/
def evalTotal (body : Body) (v : Value) : Client Value := do
  match ← body.eval v with
  | .ok result => return result
  | .error _ => return .unit

/-- The body of a behaviour, whose result nobody sees. -/
def perform (body : Body) (v : Value) : Client Unit :=
  discard (body.eval v)

/-- A hook that panics with the text, if there is one. -/
def hook (text : Option String) (_ : Value) : Client Unit :=
  match text with
  | none => .ok ()
  | some text => .error text

end Body
end RuntimeContracts.Script

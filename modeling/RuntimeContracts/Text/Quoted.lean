import RuntimeContracts.Text.Unprintable

/-!
# Quoted text

A text is quoted between double quotes. The quote, the backslash, and the four controls with a
letter of their own are written with a backslash; every other character without a printed form is
written as its code point in lower-case hexadecimal between braces.
-/

namespace RuntimeContracts.Text

def hexDigits (n : Nat) : String :=
  String.ofList (Nat.toDigits 16 n)

/-- The written form of one character inside double quotes. -/
def escape (c : Char) : String :=
  if c = '"' then "\\\""
  else if c = '\\' then "\\\\"
  else if c = '\t' then "\\t"
  else if c = '\n' then "\\n"
  else if c = '\r' then "\\r"
  else if c = '\x00' then "\\0"
  else if isUnprintable c then "\\u\x7b" ++ hexDigits c.toNat ++ "\x7d"
  else c.toString

def quote (s : String) : String :=
  "\"" ++ String.join (s.toList.map escape) ++ "\""

end RuntimeContracts.Text

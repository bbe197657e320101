/-!
# Shortest decimals

A finite double is written with the fewest decimal digits that read back as the same double, and of
those with the digits nearest to it. The number is positional while its exponent is small, and has
one digit before the point and an exponent otherwise; a whole number keeps one zero after the point.
-/

namespace RuntimeContracts.Text

def twoTo (n : Nat) : Nat := Nat.pow 2 n

def tenTo (n : Nat) : Nat := Nat.pow 10 n

structure Ratio where
  num : Nat
  den : Nat

namespace Ratio

def scaled (num : Nat) (twos : Int) : Ratio :=
  if twos < 0 then ⟨num, twoTo (-twos).toNat⟩ else ⟨num * twoTo twos.toNat, 1⟩

def le (a b : Ratio) : Bool := a.num * b.den ≤ b.num * a.den

def lt (a b : Ratio) : Bool := a.num * b.den < b.num * a.den

/-- The number with its point moved to the left by that many decimal places. -/
def shiftDown (r : Ratio) (places : Int) : Ratio :=
  if places < 0 then ⟨r.num * tenTo (-places).toNat, r.den⟩
  else ⟨r.num, r.den * tenTo places.toNat⟩

def countDigits (n : Nat) : Nat := (Nat.toDigits 10 n).length

/-- The exponent of the first significant digit of a positive number. -/
def leadingExponent (r : Ratio) : Int :=
  if r.den ≤ r.num then (countDigits (r.num / r.den) : Int) - 1
  else
    let digits := countDigits (r.den / r.num)
    if r.den ≤ r.num * tenTo (digits - 1) then 1 - (digits : Int) else -(digits : Int)

end Ratio

/-- The positive reals that round to the double `mantissa * 2 ^ twos`. -/
structure RoundingInterval where
  low : Ratio
  value : Ratio
  high : Ratio
  closed : Bool

namespace RoundingInterval

/-- Below a power of two the doubles lie twice as dense as above it. -/
def ofDouble (mantissa : Nat) (twos : Int) (isLowest : Bool) : RoundingInterval where
  low := if mantissa = twoTo 52 ∧ ¬isLowest then Ratio.scaled (4 * mantissa - 1) (twos - 2)
    else Ratio.scaled (2 * mantissa - 1) (twos - 1)
  value := Ratio.scaled mantissa twos
  high := Ratio.scaled (2 * mantissa + 1) (twos - 1)
  closed := mantissa % 2 = 0

def contains (interval : RoundingInterval) (r : Ratio) : Bool :=
  if interval.closed then interval.low.le r && r.le interval.high
  else interval.low.lt r && r.lt interval.high

/-- The better of the two neighbours of the value among the multiples of a power of ten. -/
def nearest? (interval : RoundingInterval) (place : Int) : Option Nat :=
  let shifted := interval.value.shiftDown place
  let below := shifted.num / shifted.den
  let above := below + 1
  let fits (n : Nat) : Bool := 0 < n && interval.contains ((Ratio.mk n 1).shiftDown (-place))
  let aboveIsNearer : Bool := (2 * below + 1) * shifted.den < 2 * shifted.num ||
    ((2 * below + 1) * shifted.den = 2 * shifted.num && below % 2 = 1)
  match fits below, fits above with
  | true, true => some (if aboveIsNearer then above else below)
  | true, false => some below
  | false, true => some above
  | false, false => none

/-- The digits as a number, and the place of the last of them. -/
def search (interval : RoundingInterval) : Nat → Int → Nat × Int
  | 0, place => ((interval.nearest? place).getD 0, place)
  | more + 1, place =>
    match interval.nearest? place with
    | some digits => (digits, place)
    | none => interval.search more (place - 1)

def shortest (interval : RoundingInterval) : Nat × Int :=
  interval.search 17 interval.value.leadingExponent

end RoundingInterval

def trimZeros : Nat → Nat × Int → Nat × Int
  | 0, decimal => decimal
  | fuel + 1, (digits, place) =>
    if digits ≠ 0 ∧ digits % 10 = 0 then trimZeros fuel (digits / 10, place + 1)
    else (digits, place)

/-- An exponent always shows its sign. -/
def signed (exponent : Int) : String :=
  (if exponent < 0 then "-" else "+") ++ toString exponent.natAbs

/-- Writes a positive decimal. Positional writing begins at `1e-5` and ends before `1e16`. -/
def writeDecimal (digits : Nat) (place : Int) : String :=
  let text := toString digits
  let point : Int := text.length + place
  if 0 ≤ place ∧ point ≤ 16 then text ++ String.ofList (List.replicate place.toNat '0') ++ ".0"
  else if 0 < point ∧ point ≤ 16 then
    String.ofList (text.toList.take point.toNat) ++ "." ++
      String.ofList (text.toList.drop point.toNat)
  else if -5 < point ∧ point ≤ 0 then
    "0." ++ String.ofList (List.replicate (-point).toNat '0') ++ text
  else
    let fraction := String.ofList (text.toList.drop 1)
    String.ofList (text.toList.take 1) ++ (if fraction.isEmpty then "" else "." ++ fraction) ++
      "e" ++ signed (point - 1)

/-- The shortest decimal of a finite double. -/
def writeDouble (x : Float) : String :=
  let bits : Nat := x.toBits.toNat
  let sign := if bits / twoTo 63 = 1 then "-" else ""
  let exponent : Nat := bits / twoTo 52 % twoTo 11
  let fraction : Nat := bits % twoTo 52
  if exponent = 0 ∧ fraction = 0 then sign ++ "0.0"
  else
    let mantissa : Nat := if exponent = 0 then fraction else twoTo 52 + fraction
    let twos : Int := (if exponent = 0 then 1 else (exponent : Int)) - 1075
    let (digits, place) := trimZeros 17
      (RoundingInterval.ofDouble mantissa twos (exponent ≤ 1)).shortest
    sign ++ writeDecimal digits place

end RuntimeContracts.Text

/-
This file reads the number texts of JSON and writes numbers back.
-/

import CardDuel.Decimal.Shortest

namespace CardDuel

/-- This is the written form of a JSON number, digit by digit. -/
structure Json.Numeral where
  negative : Bool
  whole : List Nat
  fraction : List Nat
  /-- This is the written exponent: whether it is negative, and its digits. -/
  exponent : Option (Bool × List Nat)

/-- This is a JSON number: an exact integer, or a double for every other written form. -/
inductive Json.Number where
  /-- This is an integer from `-2 ^ 63` to `2 ^ 64 - 1`. -/
  | integer (value : Int)
  | decimal (value : Float)

namespace Json.Numeral

/-- This is the largest significand that is kept while digits are read. -/
def maxSignificand : Nat := UInt64.size - 1

/--
This appends digits to a significand while it fits in 64 bits, and returns the digits that are left.
-/
def absorb (significand : Nat) : List Nat → Nat × List Nat
  | [] => (significand, [])
  | digit :: digits =>
    let next := significand * 10 + digit
    if next > maxSignificand then (significand, digit :: digits) else absorb next digits

def digitsValue (digits : List Nat) : Nat :=
  digits.foldl (fun value digit => value * 10 + digit) 0

/-- This scales a double by a power of ten in steps of at most 308 places; overflow has no value. -/
def scale (value : Float) (exponent : Int) : (steps : Nat) → Option Float
  | 0 => some value
  | steps + 1 =>
    if exponent.natAbs ≤ 308 then
      let power := Float.ofScientific 1 false exponent.natAbs
      if exponent ≥ 0 then
        let scaled := value * power
        if scaled.isInf then none else some scaled
      else some (value / power)
    else if value == 0.0 then some value
    else if exponent ≥ 0 then none
    else scale (value / Float.ofScientific 1 false 308) (exponent + 308) steps

/-- This is the range of 32-bit exponents, to which sums of exponents are clamped. -/
def clampExponent (exponent : Int) : Int :=
  max Int32.minValue.toInt (min Int32.maxValue.toInt exponent)

/-- This is the double of a signed significand at a decimal exponent; overflow has no value. -/
def toDouble? (negative : Bool) (significand : Nat) (exponent : Int) : Option Float := do
  let value ← scale significand.toUInt64.toFloat exponent 16
  return if negative then -value else value

/--
This is the double that a numeral with a fraction or an exponent stands for. The significand keeps
the leading digits that fit in 64 bits, and every digit left out of the whole part raises the
exponent by one.
-/
def decimal? (numeral : Numeral) : Option Float :=
  let (leading, dropped) := absorb 0 numeral.whole
  let (significand, cut) := absorb leading numeral.fraction
  let kept := numeral.fraction.length - cut.length
  let place : Int := dropped.length - kept
  match numeral.exponent with
  | none => toDouble? numeral.negative significand place
  | some (below, digits) =>
    let written := digitsValue digits
    if written > 0x7FFFFFFF then
      if significand ≠ 0 ∧ !below then none
      else some (if numeral.negative then -0.0 else 0.0)
    else
      let exponent := if below then place - written else place + written
      toDouble? numeral.negative significand (clampExponent exponent)

/-- This is the number that a numeral stands for; only a double that overflows has none. -/
def number? (numeral : Numeral) : Option Number :=
  let exact := numeral.fraction.isEmpty && numeral.exponent.isNone
  let value := digitsValue numeral.whole
  if exact && !numeral.negative && value ≤ maxSignificand then
    some (.integer value)
  else if exact && numeral.negative && value ≠ 0 && value ≤ 0x8000000000000000 then
    some (.integer (-value))
  else
    numeral.decimal?.map .decimal

end Json.Numeral

namespace Json.Number

/-- This is the text of a digit sequence with a point after the first `whole` digits. -/
def pointed (digits : String) (whole : Nat) : String :=
  String.ofList (digits.toList.take whole) ++ "." ++ String.ofList (digits.toList.drop whole)

def zeros (count : Nat) : String := String.ofList (List.replicate count '0')

/-- This writes an exponent; it always has a sign, and no zeros in front. -/
def exponentText (exponent : Int) : String :=
  (if exponent < 0 then "e-" else "e+") ++ toString exponent.natAbs

/--
This writes a positive decimal. It is positional from `0.00001` up to sixteen digits before the
point, with `.0` after a whole number, and has an exponent otherwise.
-/
def layout (number : Decimal.Scientific) : String :=
  let digits := toString number.digits
  let length : Int := digits.length
  let point := length + number.exponent
  if number.exponent ≥ 0 ∧ point ≤ 16 then
    digits ++ zeros number.exponent.toNat ++ ".0"
  else if point > 0 ∧ point ≤ 16 then
    pointed digits point.toNat
  else if point > -5 ∧ point ≤ 0 then
    "0." ++ zeros (-point).toNat ++ digits
  else if digits.length = 1 then
    digits ++ exponentText (point - 1)
  else
    pointed digits 1 ++ exponentText (point - 1)

def decimalText (value : Float) : String :=
  let bits := value.toBits
  let negative := bits.toNat / 0x8000000000000000 = 1
  let magnitude := bits &&& 0x7fffffffffffffff
  let text := if magnitude = 0 then "0.0" else layout (Decimal.shortest magnitude)
  if negative then "-" ++ text else text

def text : Number → String
  | integer value => toString value
  | decimal value => decimalText value

def toUInt64? : Number → Option UInt64
  | integer value =>
    if 0 ≤ value ∧ value.toNat < UInt64.size then some value.toNat.toUInt64 else none
  | decimal _ => none

end Json.Number

end CardDuel

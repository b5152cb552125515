/-
This file finds the shortest decimal that reads back as a given binary fraction.
-/

namespace CardDuel.Decimal

/-- This is the number `significand * 2 ^ exponent`, with the binary exponent as an integer. -/
structure Binary where
  significand : Nat
  exponent : Int
  /-- This tells whether the next smaller number is only half as far away as the next larger one. -/
  narrowBelow : Bool

/-- This is the number `digits * 10 ^ exponent`. -/
structure Scientific where
  digits : Nat
  exponent : Int
deriving DecidableEq

/-- This splits the bits of a positive finite double into its significand and exponent. -/
def Binary.ofBits (bits : UInt64) : Binary :=
  let fraction : Nat := bits.toNat % 0x10000000000000
  let field : Nat := bits.toNat / 0x10000000000000 % 0x800
  if field = 0 then
    ⟨fraction, -1074, false⟩
  else
    ⟨0x10000000000000 + fraction, (field : Int) - 1075, fraction = 0 && field > 1⟩

/--
This is a fraction over a common scale. A quarter of the last binary place, counted by `quarters`,
is compared with the decimal grid `10 ^ place`.
-/
structure Grid where
  scale : Nat
  unit : Nat

/-- This is the grid of the decimal place for a number with the given binary exponent. -/
def Binary.grid (number : Binary) (place : Int) : Grid :=
  let binary := number.exponent - 2
  ⟨Nat.pow 2 binary.toNat * Nat.pow 10 (-place).toNat,
    Nat.pow 2 (-binary).toNat * Nat.pow 10 place.toNat⟩

/-- This is the lower end, in quarters of the last place, of what rounds to the number. -/
def Binary.lowQuarters (number : Binary) : Nat :=
  4 * number.significand - (if number.narrowBelow then 1 else 2)

/-- This is the upper end, in quarters of the last place, of what rounds to the number. -/
def Binary.highQuarters (number : Binary) : Nat := 4 * number.significand + 2

/-- This tells whether a multiple of the grid rounds to the number; the ends belong to even ones. -/
def Binary.accepts (number : Binary) (grid : Grid) (multiple : Nat) : Bool :=
  let low := number.lowQuarters * grid.scale
  let high := number.highQuarters * grid.scale
  let value := multiple * grid.unit
  if number.significand % 2 = 0 then low ≤ value && value ≤ high else low < value && value < high

/-- This is the multiple of the grid that stands for the number, the nearer of two neighbours. -/
def Binary.onGrid? (number : Binary) (grid : Grid) : Option Nat :=
  let value := 4 * number.significand * grid.scale
  let down := value / grid.unit
  let up := down + 1
  match number.accepts grid down, number.accepts grid up with
  | true, true =>
    let below := value - down * grid.unit
    let above := up * grid.unit - value
    some (if below < above ∨ (below = above ∧ down % 2 = 0) then down else up)
  | true, false => some down
  | false, true => some up
  | false, false => none

/-- This is the largest decimal place not above the number, searched downward from `place`. -/
def Binary.leadingPlace (number : Binary) : (steps : Nat) → (place : Int) → Int
  | 0, place => place
  | steps + 1, place =>
    let grid := number.grid place
    if grid.unit ≤ 4 * number.significand * grid.scale then place
    else number.leadingPlace steps (place - 1)

/-- This tries ever finer grids until one of them holds a decimal that reads back. -/
def Binary.search (number : Binary) : (steps : Nat) → (place : Int) → Scientific
  | 0, place => ⟨0, place⟩
  | steps + 1, place =>
    match number.onGrid? (number.grid place) with
    | some digits => ⟨digits, place⟩
    | none => number.search steps (place - 1)

/-- This moves trailing zeros of the digits into the exponent. -/
def Scientific.trim (steps : Nat) (number : Scientific) : Scientific :=
  match steps with
  | 0 => number
  | steps + 1 =>
    if number.digits ≠ 0 ∧ number.digits % 10 = 0 then
      Scientific.trim steps ⟨number.digits / 10, number.exponent + 1⟩
    else number

/-- This is the shortest decimal that reads back as a positive double, given by its bits. -/
def shortest (bits : UInt64) : Scientific :=
  let number := Binary.ofBits bits
  let place := number.leadingPlace 640 309
  (number.search 18 place).trim 18

end CardDuel.Decimal

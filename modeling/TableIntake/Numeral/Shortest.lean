import TableIntake.Numeral.Binary

/-! # Shortest decimals

The decimals that read back as a given binary number form an interval around it. The
shortest of them lie on the coarsest grid of multiples of a power of ten that meets
the interval, and of those the one nearest to the number is taken.
-/

namespace TableIntake.Numeral

structure Decimal where
  digits : Nat
  exponent : Int
deriving DecidableEq, Repr

inductive Tie where
  | even
  | away
deriving DecidableEq, Repr

/-- A positive number of a format with the interval of reals that round to it, all in
units of a quarter of `2 ^ exponent`. The ends belong to the interval if the
significand is even. -/
structure Neighbourhood where
  low : Nat
  middle : Nat
  high : Nat
  closed : Bool
  exponent : Int

/-- Below a power of two the numbers of a format lie twice as close together, except
where the smallest exponent is reached already. -/
def BinaryFormat.neighbourhood (format : BinaryFormat) (significand : Nat) (exponent : Int) :
    Neighbourhood :=
  let closeBelow := significand = Nat.pow 2 format.fractionBits ∧ format.leastExponent < exponent
  { low := 4 * significand - (if closeBelow then 1 else 2)
    middle := 4 * significand
    high := 4 * significand + 2
    closed := significand % 2 == 0
    exponent := exponent - 2 }

structure Scale where
  binary : Nat
  decimal : Nat

def scale (exponent place : Int) : Scale :=
  { binary := Nat.pow 2 exponent.toNat * Nat.pow 10 (-place).toNat
    decimal := Nat.pow 2 (-exponent).toNat * Nat.pow 10 place.toNat }

namespace Neighbourhood

variable (around : Neighbourhood)

def contains (place : Int) (multiple : Nat) : Bool :=
  let scale := scale around.exponent place
  let point := multiple * scale.decimal
  let low := around.low * scale.binary
  let high := around.high * scale.binary
  if around.closed then low ≤ point && point ≤ high else low < point && point < high

def nearer (tie : Tie) (place : Int) (lower : Nat) : Nat :=
  let scale := scale around.exponent place
  let twice := 2 * around.middle * scale.binary
  let border := (2 * lower + 1) * scale.decimal
  if twice < border then lower
  else if border < twice then lower + 1
  else match tie with
    | .even => lower + lower % 2
    | .away => lower + 1

/-- The multiple of `10 ^ place` in the interval that is nearest to the number, if
there is one. Only the two next to the number can be. -/
def onGrid? (tie : Tie) (place : Int) : Option Nat :=
  let scale := scale around.exponent place
  let lower := around.middle * scale.binary / scale.decimal
  match around.contains place lower, around.contains place (lower + 1) with
  | true, true => some (around.nearer tie place lower)
  | true, false => some lower
  | false, true => some (lower + 1)
  | false, false => none

def coarsest (tie : Tie) : (grids : Nat) → (place : Int) → Decimal
  | 0, place => ⟨0, place⟩
  | grids + 1, place =>
      match around.onGrid? tie place with
      | some digits => ⟨digits, place⟩
      | none => coarsest tie grids (place - 1)

end Neighbourhood

/-- A place whose power of ten exceeds `2 ^ bits`, by less than a factor of a thousand.
The logarithm of two to base ten lies between 0.30102 and 0.30103. -/
def placeAbove (bits : Int) : Int :=
  if 0 ≤ bits then bits * 30103 / 100000 + 1 else bits * 30102 / 100000 + 1

/-- The shortest decimal that reads back as `significand * 2 ^ exponent`. Seventeen
digits tell any two doubles apart, and the search starts at most three places above
the leading digit. -/
def BinaryFormat.shortest (format : BinaryFormat) (tie : Tie) (significand : Nat)
    (exponent : Int) : Decimal :=
  (format.neighbourhood significand exponent).coarsest tie 24
    (placeAbove (exponent + significand.log2 + 1))

example : BinaryFormat.double.shortest .even 1 (-1074) = ⟨5, -324⟩ := by decide +kernel

example : BinaryFormat.double.shortest .even 0x1999999999999A (-56) = ⟨1, -1⟩ := by
  decide +kernel

end TableIntake.Numeral

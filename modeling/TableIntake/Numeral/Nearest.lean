import TableIntake.Numeral.Binary
import TableIntake.Numeral.Unsigned

/-! # Binary numbers nearest to decimals

A decimal is read exactly and rounded once. Of a quotient it is enough to know some more
bits than the format has, and whether anything is left behind them.
-/

namespace TableIntake.Numeral

/-- The bits of the number of the format nearest to `digits / divisor`. The significand has
66 bits at least, and the last of them stands for all that lie behind it. -/
def BinaryFormat.nearestQuotient (format : BinaryFormat) (digits divisor : Nat) : Nat :=
  let places := divisor.log2 + 66
  let scaled := digits * Nat.pow 2 places
  let rest := if scaled % divisor = 0 then 0 else 1
  format.magnitudeBits (2 * (scaled / divisor) + rest) (-(places + 1 : Nat))

/-- The bits of the number of the format nearest to `digits * 10 ^ exponent`. No double has its
leading digit further from the point than 340 places. -/
def BinaryFormat.nearestDecimal (format : BinaryFormat) (digits : Nat) (exponent : Int) : Nat :=
  let leading := exponent + (Nat.toDigits 10 digits).length
  if digits = 0 || leading < -340 then 0
  else if 340 < leading then format.infinityBits
  else if 0 ≤ exponent then format.magnitudeBits (digits * Nat.pow 10 exponent.toNat) 0
  else format.nearestQuotient digits (Nat.pow 10 (-exponent).toNat)

example : BinaryFormat.double.nearestDecimal 15 (-1) = 0x3FF8000000000000 := by decide +kernel

example : BinaryFormat.double.nearestDecimal 5 (-324) = 1 := by decide +kernel

/-! ## Texts -/

def power? : List Char → Option Int
  | '-' :: digits => if digits.isEmpty then none else (digits? 0 digits).map fun n => -(n : Int)
  | '+' :: digits => if digits.isEmpty then none else (digits? 0 digits).map fun n => (n : Int)
  | digits => if digits.isEmpty then none else (digits? 0 digits).map fun n => (n : Int)

/-- Digits, possibly with a point among them or at either end, and possibly a power of ten
behind them. -/
def decimal? (text : List Char) : Option (Nat × Int) := do
  let whole := text.takeWhile Char.isDigit
  let behind := text.drop whole.length
  let fraction := match behind with
    | '.' :: rest => rest.takeWhile Char.isDigit
    | _ => []
  let rest := match behind with
    | '.' :: rest => rest.drop fraction.length
    | _ => behind
  let digits ← if whole.isEmpty && fraction.isEmpty then none else digits? 0 (whole ++ fraction)
  let power ← match rest with
    | [] => some 0
    | c :: rest => if c = 'e' || c = 'E' then power? rest else none
  return (digits, power - (fraction.length : Int))

def finiteDouble? (text : List Char) : Option UInt64 := do
  let unsigned := match text with
    | '-' :: rest => rest
    | _ => text
  let (digits, power) ← decimal? unsigned
  let bits := BinaryFormat.double.nearestDecimal digits power
  if bits = BinaryFormat.double.infinityBits then none
  else return UInt64.ofNat (BinaryFormat.double.signed (text.head? = some '-') bits)

example : finiteDouble? ['-', '1', '.', '5'] = some 0xBFF8000000000000 := by decide +kernel

example : finiteDouble? ['.'] = none := by decide +kernel

end TableIntake.Numeral

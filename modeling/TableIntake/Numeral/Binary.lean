/-! # Binary floating point

Numbers of the binary interchange formats, taken apart into a whole significand and
a power of two, and put together again by rounding to the nearest number of a format.
-/

namespace TableIntake.Numeral

structure BinaryFormat where
  fractionBits : Nat
  exponentBits : Nat

namespace BinaryFormat

def single : BinaryFormat := ⟨23, 8⟩

def double : BinaryFormat := ⟨52, 11⟩

variable (format : BinaryFormat)

def leastExponent : Int :=
  2 - Int.ofNat (Nat.pow 2 (format.exponentBits - 1)) - format.fractionBits

def infinityBits : Nat :=
  (Nat.pow 2 format.exponentBits - 1) * Nat.pow 2 format.fractionBits

def signBit : Nat :=
  Nat.pow 2 (format.exponentBits + format.fractionBits)

def nanBits : Nat :=
  format.infinityBits + Nat.pow 2 (format.fractionBits - 1)

end BinaryFormat

/-- A number of a format. A finite one is `significand * 2 ^ exponent`, with a sign
that zero has too. What is no number carries a sign and a payload of so many bits. -/
inductive Binary where
  | notANumber (negative : Bool) (payload width : Nat)
  | infinite (negative : Bool)
  | finite (negative : Bool) (significand : Nat) (exponent : Int)
deriving DecidableEq, Repr

namespace BinaryFormat

variable (format : BinaryFormat)

def decode (bits : Nat) : Binary :=
  let negative := bits / format.signBit % 2 == 1
  let power := bits / Nat.pow 2 format.fractionBits % Nat.pow 2 format.exponentBits
  let fraction := bits % Nat.pow 2 format.fractionBits
  if power = Nat.pow 2 format.exponentBits - 1 then
    if fraction = 0 then .infinite negative
    else .notANumber negative fraction format.fractionBits
  else if power = 0 then
    .finite negative fraction format.leastExponent
  else
    .finite negative (Nat.pow 2 format.fractionBits + fraction)
      (format.leastExponent + (power - 1))

end BinaryFormat

/-- `significand / 2 ^ places`, with a half going to the even neighbour. -/
def halfEvenShift (significand places : Nat) : Nat :=
  let unit := Nat.pow 2 places
  let whole := significand / unit
  let twice := 2 * (significand % unit)
  if twice < unit then whole
  else if unit < twice then whole + 1
  else if places = 0 then whole
  else whole + whole % 2

def inUnits (significand : Nat) (exponent unit : Int) : Nat :=
  if unit ≤ exponent then
    significand * Nat.pow 2 (exponent - unit).toNat
  else
    halfEvenShift significand (unit - exponent).toNat

namespace BinaryFormat

variable (format : BinaryFormat)

/-- The bits of the nearest number of the format, without its sign. Above the format's
range that is infinity. Consecutive numbers have consecutive bits, so a significand
that rounding carries past its width moves into the exponent by itself. -/
def magnitudeBits (significand : Nat) (exponent : Int) : Nat :=
  if significand = 0 then
    0
  else
    let unit := max format.leastExponent (exponent + significand.log2 - format.fractionBits)
    let bits := (unit - format.leastExponent).toNat * Nat.pow 2 format.fractionBits +
      inUnits significand exponent unit
    min bits format.infinityBits

def signed (negative : Bool) (magnitude : Nat) : Nat :=
  if negative then format.signBit + magnitude else magnitude

/-- The bits that say that there is no number. They keep the high bits of the payload, and the
highest one is set: it marks what has been converted. -/
def payloadBits (payload width : Nat) : Nat :=
  let moved := payload * Nat.pow 2 format.fractionBits / Nat.pow 2 width
  let mark := Nat.pow 2 (format.fractionBits - 1)
  format.infinityBits + if moved < mark then mark + moved else moved

def encode : Binary → Nat
  | .notANumber negative payload width =>
      format.signed negative (format.payloadBits payload width)
  | .infinite negative => format.signed negative format.infinityBits
  | .finite negative significand exponent =>
      format.signed negative (format.magnitudeBits significand exponent)

example : double.encode (.finite false 3 (-1)) = 0x3FF8000000000000 := by decide +kernel

example : single.encode (double.decode 0x3FF8000000000000) = 0x3FC00000 := by decide +kernel

example : single.encode (double.decode 0x47EFFFFFF0000000) = 0x7F800000 := by decide +kernel

end BinaryFormat

def doubleOfInt (value : Int) : UInt64 :=
  UInt64.ofNat (BinaryFormat.double.encode (.finite (value < 0) value.natAbs 0))

def doubleOfSingle (bits : UInt32) : UInt64 :=
  UInt64.ofNat (BinaryFormat.double.encode (BinaryFormat.single.decode bits.toNat))

def singleOfDouble (bits : UInt64) : UInt32 :=
  UInt32.ofNat (BinaryFormat.single.encode (BinaryFormat.double.decode bits.toNat))

example : doubleOfSingle 0xFF800001 = 0xFFF8000020000000 := by decide +kernel

example : singleOfDouble (doubleOfSingle 0xFF800001) = 0xFFC00001 := by decide +kernel

end TableIntake.Numeral

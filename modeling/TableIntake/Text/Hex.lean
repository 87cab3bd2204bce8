/-! # Hexadecimal text

Bytes are shown as two lower-case digits each.
-/

namespace TableIntake.Text

def hexDigit (value : Nat) : Char :=
  if value < 10 then Char.ofNat ('0'.toNat + value) else Char.ofNat ('a'.toNat + (value - 10))

def hexByte (byte : UInt8) : List Char :=
  [hexDigit (byte.toNat / 16), hexDigit (byte.toNat % 16)]

def hex (bytes : List UInt8) : String :=
  String.ofList (bytes.flatMap hexByte)

example : hex [0xCA, 0x0E] = "ca0e" := by decide +kernel

def hexValue? (c : Char) : Option Nat :=
  if c.isDigit then some (c.toNat - '0'.toNat)
  else if 'a' ≤ c ∧ c ≤ 'f' then some (c.toNat - 'a'.toNat + 10)
  else if 'A' ≤ c ∧ c ≤ 'F' then some (c.toNat - 'A'.toNat + 10)
  else none

def bytesOfHex? : List Char → Option (List UInt8)
  | [] => some []
  | high :: low :: rest => do
      let high ← hexValue? high
      let low ← hexValue? low
      let rest ← bytesOfHex? rest
      return UInt8.ofNat (16 * high + low) :: rest
  | [_] => none

def hexNumber (value : Nat) : String :=
  String.ofList (Nat.toDigits 16 value)

end TableIntake.Text

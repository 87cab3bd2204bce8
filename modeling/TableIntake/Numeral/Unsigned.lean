/-! # Unsigned decimal numbers

An optional plus sign and one or more of the digits 0 to 9.
-/

namespace TableIntake.Numeral

def digitValue (c : Char) : Nat :=
  c.toNat - '0'.toNat

/-- The number whose leading digits are worth `value` and whose other digits are
given. Refuses a character that is no digit. -/
def digits? (value : Nat) : List Char → Option Nat
  | [] => some value
  | c :: rest => if c.isDigit then digits? (10 * value + digitValue c) rest else none

def unsigned? (bound : Nat) (text : List Char) : Option Nat :=
  let digits := match text with
    | '+' :: rest => rest
    | _ => text
  if digits.isEmpty then none else (digits? 0 digits).filter (· < bound)

example : unsigned? 100 ['+', '0', '7'] = some 7 := rfl

example : unsigned? 100 ['1', '0', '0'] = none := rfl

example : unsigned? 100 ['+'] = none := rfl

def unsigned32? (text : List Char) : Option UInt32 :=
  (unsigned? UInt32.size text).map UInt32.ofNat

def unsigned64? (text : List Char) : Option UInt64 :=
  (unsigned? UInt64.size text).map UInt64.ofNat

end TableIntake.Numeral

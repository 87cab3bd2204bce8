import TableIntake.Numeral.Shortest

/-! # Layouts of floating point numbers

A layout decides which shortest decimals are written with all their places and which
with a power of ten.
-/

namespace TableIntake.Numeral

/-- `positional` holds the least and greatest exponent of the leading digit that is
written without a power of ten. Without it all are. `wholeMark` follows a whole number
that is written so. -/
structure Layout where
  positional : Option (Int × Int)
  wholeMark : String
  tie : Tie

namespace Layout

variable (layout : Layout)

def isPositional (leading : Int) : Bool :=
  match layout.positional with
  | none => true
  | some (least, greatest) => decide (least ≤ leading ∧ leading ≤ greatest)

def zeros (count : Nat) : List Char :=
  List.replicate count '0'

def places (digits : List Char) (exponent : Int) : List Char :=
  if 0 ≤ exponent then
    digits ++ zeros exponent.toNat ++ layout.wholeMark.toList
  else
    let behind := (-exponent).toNat
    let padded := zeros (behind + 1 - digits.length) ++ digits
    padded.take (padded.length - behind) ++ '.' :: padded.drop (padded.length - behind)

def withPower (digits : List Char) (leading : Int) : List Char :=
  match digits with
  | [] => []
  | [digit] => digit :: 'e' :: (toString leading).toList
  | digit :: rest => digit :: '.' :: rest ++ 'e' :: (toString leading).toList

def decimal (decimal : Decimal) : List Char :=
  let digits := Nat.toDigits 10 decimal.digits
  let leading := decimal.exponent + (digits.length - 1 : Nat)
  if layout.isPositional leading then
    layout.places digits decimal.exponent
  else
    withPower digits leading

def sign (negative : Bool) : List Char :=
  if negative then ['-'] else []

def write (format : BinaryFormat) (number : Binary) : String :=
  String.ofList <| match number with
    | .notANumber _ _ _ => ['N', 'a', 'N']
    | .infinite negative => sign negative ++ ['i', 'n', 'f']
    | .finite negative significand exponent =>
        sign negative ++
          if significand = 0 then
            '0' :: layout.wholeMark.toList
          else
            layout.decimal (format.shortest layout.tie significand exponent)

def single (bits : UInt32) : String :=
  layout.write .single (BinaryFormat.single.decode bits.toNat)

def double (bits : UInt64) : String :=
  layout.write .double (BinaryFormat.double.decode bits.toNat)

end Layout

end TableIntake.Numeral

import TableIntake.Numeral.Layout
import TableIntake.Text.Hex

/-! # Cells

The value of one column in one row, with its size, its bytes and its text.
-/

namespace TableIntake

open Numeral

inductive Cell where
  | null
  | boolean (value : Bool)
  | short (value : Int16)
  | int (value : Int32)
  | long (value : Int64)
  | float (bits : UInt32)
  | double (bits : UInt64)
  | text (value : String)
  | bytes (value : List UInt8)
  | array (cells : List Cell)
deriving BEq, Inhabited

abbrev Row := List Cell

namespace Cell

def isNull : Cell → Bool
  | .null => true
  | _ => false

def utf8 (text : String) : List UInt8 :=
  text.toUTF8.data.toList

def bigEndianBytes (value : Nat) : (count : Nat) → List UInt8
  | 0 => []
  | count + 1 => UInt8.ofNat (value / Nat.pow 256 count) :: bigEndianBytes value count

example : bigEndianBytes 0x1CAFE 2 = [0xCA, 0xFE] := by decide +kernel

/-- The smallest and largest values of a floating point column are written with all
their places. Of two shortest decimals equally near, the one further from zero is
taken. -/
def layout : Layout :=
  ⟨none, "", .away⟩

mutual

/-- The bytes that a quota counts. A null costs nothing. -/
def byteSize : Cell → Nat
  | .null => 0
  | .boolean _ => 1
  | .short _ => 2
  | .int _ | .float _ => 4
  | .long _ | .double _ => 8
  | .text value => value.utf8ByteSize
  | .bytes value => value.length
  | .array cells => totalSize cells

def totalSize : List Cell → Nat
  | [] => 0
  | cell :: rest => cell.byteSize + totalSize rest

end

mutual

/-- The bytes of the value, high ones first. A null has none, at any depth. -/
def bigEndian? : Cell → Option (List UInt8)
  | .null => none
  | .boolean value => some [if value then 1 else 0]
  | .short value => some (bigEndianBytes value.toUInt16.toNat 2)
  | .int value => some (bigEndianBytes value.toUInt32.toNat 4)
  | .long value => some (bigEndianBytes value.toUInt64.toNat 8)
  | .float bits => some (bigEndianBytes bits.toNat 4)
  | .double bits => some (bigEndianBytes bits.toNat 8)
  | .text value => some (utf8 value)
  | .bytes value => some value
  | .array cells => allBigEndian? cells

def allBigEndian? : List Cell → Option (List UInt8)
  | [] => some []
  | cell :: rest => do
      let bytes ← cell.bigEndian?
      let others ← allBigEndian? rest
      return bytes ++ others

end

mutual

/-- The text that the cell is shown as, and that a text column stores. -/
def shown : Cell → String
  | .null => "null"
  | .boolean value => if value then "true" else "false"
  | .short value => toString value.toInt
  | .int value => toString value.toInt
  | .long value => toString value.toInt
  | .float bits => layout.single bits
  | .double bits => layout.double bits
  | .text value => value
  | .bytes value => Text.hex value
  | .array cells => String.intercalate " " (allShown cells)

def allShown : List Cell → List String
  | [] => []
  | cell :: rest => cell.shown :: allShown rest

end

def asInt? : Cell → Option Int
  | .boolean value => some (if value then 1 else 0)
  | .short value => some value.toInt
  | .int value => some value.toInt
  | .long value => some value.toInt
  | _ => none

def asDouble? : Cell → Option UInt64
  | .float bits => some (doubleOfSingle bits)
  | .double bits => some bits
  | cell => cell.asInt?.map doubleOfInt

theorem totalSize_eq_foldr (cells : List Cell) :
    totalSize cells = (cells.map byteSize).foldr (· + ·) 0 := by
  induction cells with
  | nil => rfl
  | cons cell rest induction => rw [totalSize, induction, List.map_cons, List.foldr_cons]

example : (array [short 1, null]).bigEndian? = none := rfl

example : (array [int 1, int 2]).shown = "1 2" := by decide +kernel

end Cell

def Row.byteSize (row : Row) : Nat :=
  Cell.totalSize row

theorem Row.byteSize_eq_foldr (row : Row) :
    row.byteSize = (row.map Cell.byteSize).foldr (· + ·) 0 :=
  Cell.totalSize_eq_foldr row

end TableIntake

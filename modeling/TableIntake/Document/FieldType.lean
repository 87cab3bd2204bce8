import TableIntake.Numeral.Unsigned

/-! # Field types

The types that the encoded columns of a document can have.
-/

namespace TableIntake

inductive TimeUnit where
  | second
  | millisecond
  | microsecond
  | nanosecond
deriving DecidableEq, Repr

namespace TimeUnit

def name : TimeUnit → String
  | .second => "Second"
  | .millisecond => "Millisecond"
  | .microsecond => "Microsecond"
  | .nanosecond => "Nanosecond"

def perSecond : TimeUnit → Nat
  | .second => 1
  | .millisecond => 1000
  | .microsecond => 1000000
  | .nanosecond => 1000000000

end TimeUnit

structure Zone where
  text : String
deriving DecidableEq, Repr

namespace Zone

/-- Hours and minutes as four digits. An offset is less than a day. -/
def seconds? (hours minutes : List Char) : Option Nat := do
  let hours ← Numeral.digits? 0 hours
  let minutes ← Numeral.digits? 0 minutes
  let seconds := 3600 * hours + 60 * minutes
  if seconds < 86400 then some seconds else none

def magnitude? : List Char → Option Nat
  | [a, b, ':', c, d] => seconds? [a, b] [c, d]
  | [a, b, c, d] => seconds? [a, b] [c, d]
  | [a, b] => seconds? [a, b] ['0', '0']
  | _ => none

def ofText? (text : String) : Option Zone :=
  if text = "" then none else some ⟨text⟩

/-- The seconds that a zone is ahead of universal time. They are written as a sign, the
hours, and the minutes if there are any. Zones with a name of their own are unknown. -/
def offset? (zone : Zone) : Option Int :=
  match zone.text.toList with
  | '+' :: rest => (magnitude? rest).map fun seconds => (seconds : Int)
  | '-' :: rest => (magnitude? rest).map fun seconds => -(seconds : Int)
  | _ => none

example : offset? ⟨"-05:30"⟩ = some (-19800) := by decide +kernel

example : offset? ⟨"UTC"⟩ = none := by decide +kernel

end Zone

inductive FieldType where
  | null
  | boolean
  | int8
  | int16
  | int32
  | int64
  | uint8
  | uint16
  | uint32
  | uint64
  | float32
  | float64
  | utf8
  | largeUtf8
  | binary
  | largeBinary
  | fixedSizeBinary (width : Nat)
  | date32
  | date64
  | timestamp (unit : TimeUnit) (zone : Option Zone)
  | time32 (unit : TimeUnit)
  | time64 (unit : TimeUnit)
  | decimal128 (precision : Nat) (scale : Int)
  | list (item : FieldType)
  | largeList (item : FieldType)
  | fixedSizeList (item : FieldType) (size : Nat)
  | dictionary (values : FieldType)
  | record (members : List (String × FieldType))
deriving BEq, Repr

mutual

/-- The first zone in a type whose offset is unknown. -/
def FieldType.unknownZone? : FieldType → Option Zone
  | .timestamp _ (some zone) => if zone.offset?.isNone then some zone else none
  | .list item | .largeList item | .fixedSizeList item _ => item.unknownZone?
  | .dictionary values => values.unknownZone?
  | .record members => unknownZoneOfMembers? members
  | _ => none

def unknownZoneOfMembers? : List (String × FieldType) → Option Zone
  | [] => none
  | (_, type) :: rest => type.unknownZone?.or (unknownZoneOfMembers? rest)

end

mutual

/-- How many levels of types lie below a type. The keys of a dictionary are one. -/
def FieldType.levels : FieldType → Nat
  | .list item | .largeList item | .fixedSizeList item _ => item.levels + 1
  | .dictionary values => max 1 values.levels
  | .record members => levelsOfMembers members
  | _ => 0

def levelsOfMembers : List (String × FieldType) → Nat
  | [] => 0
  | (_, type) :: rest => max (type.levels + 1) (levelsOfMembers rest)

end

/-- One encoded value. Decimals, dates and times are whole numbers of their units. -/
inductive Datum where
  | null
  | boolean (value : Bool)
  | whole (value : Int)
  | single (bits : UInt32)
  | double (bits : UInt64)
  | text (value : String)
  | bytes (value : List UInt8)
  | many (data : List Datum)
deriving BEq, Inhabited

def Datum.isNull : Datum → Bool
  | .null => true
  | _ => false

end TableIntake

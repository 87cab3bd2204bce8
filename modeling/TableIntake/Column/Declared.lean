import TableIntake.Column.Fault
import TableIntake.Column.Stored
import TableIntake.Numeral.Unsigned
import TableIntake.Text.Blank
import TableIntake.Text.Letters

/-! # Declared types

A document declares the type of a column by a datatype, an array size and an extended
type, each of them text. The three are read together and give the stored type.
-/

namespace TableIntake

open Text Numeral

inductive Datatype where
  | boolean
  | bit
  | unsignedByte
  | short
  | int
  | long
  | char
  | unicodeChar
  | float
  | double
  | floatComplex
  | doubleComplex
deriving DecidableEq, Repr

namespace Datatype

def all : List Datatype :=
  [.boolean, .bit, .unsignedByte, .short, .int, .long, .char, .unicodeChar, .float, .double,
    .floatComplex, .doubleComplex]

def name : Datatype → String
  | .boolean => "boolean"
  | .bit => "bit"
  | .unsignedByte => "unsignedByte"
  | .short => "short"
  | .int => "int"
  | .long => "long"
  | .char => "char"
  | .unicodeChar => "unicodeChar"
  | .float => "float"
  | .double => "double"
  | .floatComplex => "floatComplex"
  | .doubleComplex => "doubleComplex"

theorem mem_all (datatype : Datatype) : datatype ∈ all := by
  cases datatype <;> decide

/-- The datatype that `text` names in any letter case, with white space around it. The
fault shows the text as given. -/
def ofText (text : String) : Except SchemaFault Datatype :=
  match all.find? fun datatype => fold datatype.name == fold (trim text) with
  | some datatype => .ok datatype
  | none => .error (.unknownType text)

end Datatype

inductive Extent where
  | scalar
  | fixed (size : UInt32)
  | varying (bound : Option UInt32)
deriving DecidableEq, Repr

namespace Extent

/-- A number, with a star behind it if it is only a bound. -/
def ofTrimmed? (text : List Char) : Option Extent :=
  if text = ['*'] then
    some (.varying none)
  else if text.getLast? = some '*' then
    (unsigned32? text.dropLast).map fun bound => .varying (some bound)
  else
    (unsigned32? text).map .fixed

/-- An array size as declared. Absent and blank ones mean a single value. -/
def ofText (text : Option String) : Except SchemaFault Extent :=
  match presentTrimmed text with
  | none => .ok .scalar
  | some size =>
      if size.toList.contains 'x' then
        .error (.multiDimensional size)
      else
        match ofTrimmed? size.toList with
        | some extent => .ok extent
        | none => .error (.badExtent size)

/-- An array of one value is no array. -/
def isSingle : Extent → Bool
  | .scalar | .fixed 1 => true
  | _ => false

def text : Extent → String
  | .scalar => ""
  | .fixed size => toString size
  | .varying none => "*"
  | .varying (some bound) => toString bound ++ "*"

end Extent

structure DeclaredType where
  datatype : Datatype
  extent : Extent
  xtype : Option String
deriving DecidableEq, Repr

namespace DeclaredType

/-- The extended type loses the white space around it, and all of it if it is blank. -/
def of (datatype : Datatype) (extent : Extent) (xtype : Option String) : DeclaredType :=
  ⟨datatype, extent, presentTrimmed xtype⟩

/-- The extended type without a leading `adql:`, which counts in lower case only. -/
def localXtype (xtype : String) : String :=
  match xtype.toList with
  | 'a' :: 'd' :: 'q' :: 'l' :: ':' :: rest => String.ofList rest
  | _ => xtype

def hasXtype (declared : DeclaredType) (names : List String) : Bool :=
  match declared.xtype with
  | some xtype => names.any fun name => sameLetters (localXtype xtype) name
  | none => false

/-- Numbers are stored as such one by one. An array of them is stored as bytes. -/
def storedNumber (declared : DeclaredType) (kind : Kind) : StoredType :=
  .plain (if declared.extent.isSingle then kind else .varbinary)

def storedBytes (declared : DeclaredType) : StoredType :=
  if declared.hasXtype ["blob"] then
    .plain .blob
  else
    match declared.extent with
    | .scalar => .plain .smallint
    | .fixed size => .sized .binary size
    | .varying (some bound) => .sized .varbinary bound
    | .varying none => .plain .varbinary

def storedText (declared : DeclaredType) : StoredType :=
  if declared.hasXtype ["timestamp"] then .plain .timestamp
  else if declared.hasXtype ["point"] then .plain .point
  else if declared.hasXtype ["region", "circle", "polygon", "box"] then .plain .region
  else if declared.hasXtype ["clob"] then .plain .clob
  else
    match declared.extent with
    | .scalar => .sized .char 1
    | .fixed size => .sized .char size
    | .varying (some bound) => .sized .varchar bound
    | .varying none => .plain .varchar

def stored (declared : DeclaredType) : StoredType :=
  match declared.datatype with
  | .boolean | .short => declared.storedNumber .smallint
  | .int => declared.storedNumber .integer
  | .long => declared.storedNumber .bigint
  | .float => declared.storedNumber .real
  | .double => declared.storedNumber .double
  | .bit | .unsignedByte => declared.storedBytes
  | .char | .unicodeChar => declared.storedText
  | .floatComplex | .doubleComplex => .plain .unknown

def text (declared : DeclaredType) : String :=
  let extent := match declared.extent with
    | .scalar => ""
    | extent => "[" ++ extent.text ++ "]"
  let xtype := match declared.xtype with
    | some xtype => " (" ++ xtype ++ ")"
    | none => ""
  declared.datatype.name ++ extent ++ xtype

def undeclared : DeclaredType :=
  of .char (.varying none) none

/-- The type that the three declared texts stand for. Without a datatype the other two
do not count. -/
def resolve (datatype arraysize xtype : Option String) : Except SchemaFault DeclaredType :=
  match presentTrimmed datatype with
  | none => .ok undeclared
  | some name => do
      let datatype ← Datatype.ofText name
      let extent ← Extent.ofText arraysize
      return of datatype extent xtype

example : (of .char (.varying (some 12)) (some " timestamp")).text = "char[12*] (timestamp)" := by
  decide +kernel

example : (of .unsignedByte (.varying none) (some "adql:BLOB")).stored = .plain .blob := by
  decide +kernel

example : (of .double (.fixed 3) none).stored = .plain .varbinary := by decide +kernel

end DeclaredType

end TableIntake

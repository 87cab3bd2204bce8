import TableIntake.Cell
import TableIntake.Column.Schema
import TableIntake.Document.Shown
import TableIntake.Fault

/-! # Documents

A document holds typed fields and batches of columns. Reading it turns each field into a
declaration and each batch into rows of cells.
-/

namespace TableIntake

structure Field where
  name : String
  type : FieldType
  annotations : List (String × String) := []

structure Batch where
  columns : List (List Datum)
  rows : Nat

/-- A cut document ends within its last batch, which then cannot be read, or within its
fields if there is no batch. -/
structure Document where
  fields : List Field
  batches : List Batch
  isCut : Bool := false

/-! ## Declarations -/

structure TypeDeclaration where
  datatype : String
  arraysize : Option String := none
  xtype : Option String := none
deriving DecidableEq, Repr

/-- The declaration that an encoded type stands for by itself. Of lists only those of
single values without an extended type have one. -/
def FieldType.derived? : FieldType → Option TypeDeclaration
  | .boolean => some { datatype := "boolean" }
  | .int8 | .int16 | .uint8 => some { datatype := "short" }
  | .int32 | .uint16 => some { datatype := "int" }
  | .int64 | .uint32 => some { datatype := "long" }
  | .float32 => some { datatype := "float" }
  | .float64 => some { datatype := "double" }
  | .utf8 => some { datatype := "char", arraysize := some "*" }
  | .binary => some { datatype := "unsignedByte", arraysize := some "*" }
  | .timestamp _ _ =>
      some { datatype := "char", arraysize := some "*", xtype := some "timestamp" }
  | .list item =>
      match item.derived? with
      | some ⟨datatype, none, none⟩ => some { datatype := datatype, arraysize := some "*" }
      | _ => none
  | _ => none

namespace Field

/-- A blank annotation counts as absent. -/
def annotation? (field : Field) (key : String) : Option String :=
  (field.annotations.lookup key).filter fun text => !Text.isAllBlank text

/-- An annotated datatype takes the place of the derived declaration as a whole. -/
def typeDeclaration? (field : Field) : Option TypeDeclaration :=
  match field.annotation? "datatype" with
  | some datatype =>
      some
        { datatype := datatype
          arraysize := field.annotation? "arraysize"
          xtype := field.annotation? "xtype" }
  | none => field.type.derived?

def declaration (field : Field) : FieldDeclaration :=
  let type := field.typeDeclaration?
  { name := field.name
    datatype := type.map (·.datatype)
    arraysize := type.bind (·.arraysize)
    xtype := type.bind (·.xtype)
    description := field.annotation? "description"
    unit := field.annotation? "unit"
    ucd := field.annotation? "ucd"
    utype := field.annotation? "utype" }

end Field

def Document.header (document : Document) : Header :=
  document.fields.map Field.declaration

/-! ## Cells -/

/-- Why the cells of a column cannot be had. -/
inductive Breakdown where
  | fault (fault : ParseFault)
  | crash
deriving DecidableEq, Repr

namespace FieldType

/-- Whether the values of a type have cells of their own, and not just a text. -/
def hasCells : FieldType → Bool
  | .null | .boolean | .int8 | .int16 | .int32 | .int64 | .uint8 | .uint16 | .uint32
  | .float32 | .float64 | .utf8 | .binary | .list _ => true
  | _ => false

/-- Texts need the offsets of all zones of their type, even if no value does. -/
def unknownOffset (zone : Zone) : Breakdown :=
  .fault (.arrow (.parser ("Invalid timezone \"" ++ zone.text ++
    "\": only offset based timezones supported without chrono-tz feature")))

/-- The cell of a value that does not consist of others. A type without a cell of its own
gives its text. -/
def cell (type : FieldType) (datum : Datum) : Except Breakdown Cell :=
  match type, datum with
  | _, .null | .null, _ => .ok .null
  | .boolean, .boolean value => .ok (.boolean value)
  | .int8, .whole value | .int16, .whole value | .uint8, .whole value =>
      .ok (.short (Int16.ofInt value))
  | .int32, .whole value | .uint16, .whole value => .ok (.int (Int32.ofInt value))
  | .int64, .whole value | .uint32, .whole value => .ok (.long (Int64.ofInt value))
  | .float32, .single bits => .ok (.float bits)
  | .float64, .double bits => .ok (.double bits)
  | .utf8, .text value => .ok (.text value)
  | .binary, .bytes value => .ok (.bytes value)
  | type, datum =>
      match (type.show datum).text? with
      | some text => .ok (.text text)
      | none => .error .crash

/-- The cells of a column, up to the first value that has none. The items of a list are a
column themselves. -/
def cells : FieldType → List Datum → Except Breakdown (List Cell)
  | .list item, data =>
      data.mapM fun datum =>
        match datum with
        | .many data => (item.cells data).map .array
        | _ => .ok .null
  | type, data =>
      match if type.hasCells then none else type.unknownZone? with
      | some zone => .error (unknownOffset zone)
      | none => data.mapM type.cell

end FieldType

/-! ## Rows -/

/-- The first `count` rows of the columns. A column that is too short goes on with
nulls. -/
def rowsOf : (count : Nat) → (columns : List (List Cell)) → List Row
  | 0, _ => []
  | count + 1, columns =>
      columns.map (fun cells => cells.headD .null) :: rowsOf count (columns.map List.tail)

def Batch.cells (fields : List Field) (batch : Batch) : Except Breakdown (List (List Cell)) :=
  (fields.zip batch.columns).mapM fun (field, data) => field.type.cells data

/-- The rows of a batch, all of them or none. A batch without columns has no rows: a row
without cells would end the table. -/
def Batch.rowsOf (fields : List Field) (batch : Batch) : Except Breakdown (List Row) :=
  if fields.isEmpty then .ok [] else (batch.cells fields).map (TableIntake.rowsOf batch.rows)

namespace Document

/-- The batches whose bytes are all there. -/
def readable (document : Document) : List Batch :=
  if document.isCut then document.batches.dropLast else document.batches

/-- The rows of some batches, up to the first one that breaks down. -/
def rowsOfBatches (fields : List Field) : List Batch → List Row × Option Breakdown
  | [] => ([], none)
  | batch :: rest =>
      match batch.rowsOf fields with
      | .error breakdown => ([], some breakdown)
      | .ok rows =>
          let (others, breakdown) := rowsOfBatches fields rest
          (rows ++ others, breakdown)

def rows (document : Document) : List Row :=
  (rowsOfBatches document.fields document.readable).1

end Document

end TableIntake

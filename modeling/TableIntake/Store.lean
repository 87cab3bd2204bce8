import TableIntake.Reader.Basic

/-! # Stores

Uploaded tables, kept in typed columns under their database names.
-/

namespace TableIntake

open Numeral

inductive StoredCell where
  | null
  | int16 (value : Int16)
  | int32 (value : Int32)
  | int64 (value : Int64)
  | float32 (bits : UInt32)
  | float64 (bits : UInt64)
  | binary (value : List UInt8)
  | utf8 (value : String)
deriving DecidableEq, Repr

def StoredCell.fits (storage : Storage) : StoredCell → Bool
  | .null => true
  | .int16 _ => storage = .int16
  | .int32 _ => storage = .int32
  | .int64 _ => storage = .int64
  | .float32 _ => storage = .float32
  | .float64 _ => storage = .float64
  | .binary _ => storage = .binary
  | .utf8 _ => storage = .utf8

def int16? (value : Int) : Option Int16 :=
  if (Int16.ofInt value).toInt = value then some (Int16.ofInt value) else none

def int32? (value : Int) : Option Int32 :=
  if (Int32.ofInt value).toInt = value then some (Int32.ofInt value) else none

def int64? (value : Int) : Option Int64 :=
  if (Int64.ofInt value).toInt = value then some (Int64.ofInt value) else none

namespace Storage

/-- The stored form of a cell that is not null. Whole numbers are stored exactly or not at
all, floating point numbers are rounded, and text columns store what a cell shows. -/
def convert? (storage : Storage) (cell : Cell) : Option StoredCell :=
  match storage with
  | .int16 => (cell.asInt?.bind int16?).map .int16
  | .int32 => (cell.asInt?.bind int32?).map .int32
  | .int64 => (cell.asInt?.bind int64?).map .int64
  | .float32 => cell.asDouble?.map fun bits => .float32 (singleOfDouble bits)
  | .float64 => cell.asDouble?.map .float64
  | .binary => cell.bigEndian?.map .binary
  | .utf8 => some (.utf8 cell.shown)

def store? (storage : Storage) (cell : Cell) : Option StoredCell :=
  if cell.isNull then some .null else storage.convert? cell

end Storage

/-! ## Columns -/

structure StoredColumn where
  name : String
  storage : Storage
  annotations : List (String × String)
  cells : Array StoredCell
deriving DecidableEq, Repr

def Column.annotations (column : Column) : List (String × String) :=
  let given := [("description", column.description), ("unit", column.unit), ("ucd", column.ucd),
    ("utype", column.utype)]
  ("dbtype", column.type.text) ::
    given.filterMap fun (key, text) => text.map fun text => (key, text)

structure ColumnBuilder where
  storage : Storage
  cells : Array StoredCell := #[]

namespace ColumnBuilder

def forColumn (column : Column) : ColumnBuilder :=
  { storage := column.type.storage }

def append? (builder : ColumnBuilder) (cell : Cell) : Option ColumnBuilder :=
  (builder.storage.store? cell).map fun stored =>
    { builder with cells := builder.cells.push stored }

end ColumnBuilder

/-! ## Tables -/

structure StoredTable where
  columns : List StoredColumn
  rows : Nat
deriving DecidableEq, Repr

namespace StoredTable

def fillColumn (rows : Nat) (column : Column) (builder : ColumnBuilder) :
    Except ArrowFault StoredColumn :=
  if builder.storage ≠ column.type.storage then
    .error (.argument ("column types must match schema types, expected " ++
      column.type.storage.name ++ " but found " ++ builder.storage.name))
  else if builder.cells.size ≠ rows then
    .error (.argument "all columns in a record batch must have the specified row count")
  else
    .ok
      { name := column.name
        storage := builder.storage
        annotations := column.annotations
        cells := builder.cells }

def fillColumns (rows : Nat) : Metadata → List ColumnBuilder →
    Except ArrowFault (List StoredColumn)
  | [], [] => .ok []
  | column :: columns, builder :: builders => do
      let filled ← fillColumn rows column builder
      let others ← fillColumns rows columns builders
      return filled :: others
  | _, _ => .error (.argument "number of columns must match number of fields in schema")

def assemble (columns : Metadata) (builders : List ColumnBuilder) (rows : Nat) :
    Except ArrowFault StoredTable := do
  let filled ← fillColumns rows columns builders
  return ⟨filled, rows⟩

end StoredTable

structure UploadedTable where
  label : String
  dbName : String
  columns : Metadata
  rows : Nat := 0
deriving DecidableEq, Repr

/-! ## Stores -/

/-- Tables by database name, in increasing order of the names. -/
structure Store where
  tables : List (String × StoredTable) := []

namespace Store

def insertTable (name : String) (table : StoredTable) :
    List (String × StoredTable) → List (String × StoredTable)
  | [] => [(name, table)]
  | (other, known) :: rest =>
      if name < other then (name, table) :: (other, known) :: rest
      else if name = other then (name, table) :: rest
      else (other, known) :: insertTable name table rest

def insert (name : String) (table : StoredTable) (store : Store) : Store :=
  ⟨insertTable name table store.tables⟩

def table? (store : Store) (name : String) : Option StoredTable :=
  store.tables.lookup name

def names (store : Store) : List String :=
  store.tables.map Prod.fst

def discard (name : String) (store : Store) : Store :=
  ⟨store.tables.filter fun entry => entry.1 ≠ name⟩

def refusedCell (label : String) (column : Column) (cell : Cell) : UploadFault :=
  .unstorable label ("column \"" ++ column.name ++ "\": cannot store \"" ++ cell.shown ++
    "\" as " ++ column.type.text)

def nameTaken (label name : String) : UploadFault :=
  .unstorable label ("table " ++ name ++ " already exists")

variable {ρ : Type} [TableReader ρ]

def appendRow (label : String) : Metadata → List ColumnBuilder → ρ →
    Except UploadFault (List ColumnBuilder) × ρ
  | column :: columns, builder :: builders, reader =>
      match TableReader.nextColumn reader with
      | (.error fault, reader) => (.error (.reading label fault), reader)
      | (.ok cell, reader) =>
          match builder.append? cell with
          | none => (.error (refusedCell label column cell), reader)
          | some builder =>
              match appendRow label columns builders reader with
              | (.error fault, reader) => (.error fault, reader)
              | (.ok builders, reader) => (.ok (builder :: builders), reader)
  | _, builders, reader => (.ok builders, reader)

/-- Reads at most `fuel` rows into the builders, and counts them on from `count`. -/
def appendRows (label : String) (columns : Metadata) : (fuel count : Nat) →
    List ColumnBuilder → ρ → Except UploadFault (List ColumnBuilder × Nat) × ρ
  | 0, count, builders, reader => (.ok (builders, count), reader)
  | fuel + 1, count, builders, reader =>
      match TableReader.nextRow reader with
      | (.error fault, reader) => (.error (.reading label fault), reader)
      | (.ok false, reader) => (.ok (builders, count), reader)
      | (.ok true, reader) =>
          match appendRow label columns builders reader with
          | (.error fault, reader) => (.error fault, reader)
          | (.ok builders, reader) => appendRows label columns fuel (count + 1) builders reader

/-- Stores all the rows of a reader as a new table, and tells how many there are. A fault
leaves the store as it was. -/
def add (table : UploadedTable) (reader : ρ) (store : Store) : Except UploadFault Nat × ρ × Store :=
  if (store.table? table.dbName).isSome then
    (.error (nameTaken table.label table.dbName), reader, store)
  else
    let builders := table.columns.map ColumnBuilder.forColumn
    let fuel := TableReader.remaining reader + 1
    match appendRows table.label table.columns fuel 0 builders reader with
    | (.error fault, reader) => (.error fault, reader, store)
    | (.ok (builders, count), reader) =>
        match StoredTable.assemble table.columns builders count with
        | .error fault => (.error (.arrow fault), reader, store)
        | .ok stored => (.ok count, reader, store.insert table.dbName stored)

end Store

end TableIntake

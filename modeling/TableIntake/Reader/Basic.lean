import TableIntake.Cell
import TableIntake.Column.Schema
import TableIntake.Fault

/-! # Table readers

A table is read row by row, and a row column by column. Each call gives an answer and
the reader after it.
-/

namespace TableIntake

class TableReader (ρ : Type) where
  metadata : ρ → Except ReadFault Metadata × ρ
  nextRow : ρ → Except ReadFault Bool × ρ
  hasNextColumn : ρ → Except ReadFault Bool
  nextColumn : ρ → Except ReadFault Cell × ρ
  columnType : ρ → Except ReadFault StoredType
  rowByteSize : ρ → Nat
  close : ρ → ρ
  /-- A bound on the rows yet to come. -/
  remaining : ρ → Nat

structure Cursor where
  started : Bool := false
  ended : Bool := false
  row : Row := []
  column : Nat := 0
  rowSize : Nat := 0

namespace Cursor

def start (cursor : Cursor) : Cursor :=
  { cursor with started := true }

def load (row : Row) (cursor : Cursor) : Cursor :=
  { cursor with row := row, column := 0, rowSize := row.byteSize }

def finish (cursor : Cursor) : Cursor :=
  { cursor with ended := true, row := [], column := 0, rowSize := 0 }

/-- Columns can be read only between the first row and the end. -/
def check (cursor : Cursor) : Except ReadFault Unit :=
  if !cursor.started then .error (.state "no row has yet been read")
  else if cursor.ended then .error (.state "end of the table already reached")
  else .ok ()

def hasNext (columns : Nat) (cursor : Cursor) : Except ReadFault Bool := do
  cursor.check
  return cursor.column < columns

/-- A cell that is read is taken out of the row. -/
def next (columns : Nat) (cursor : Cursor) : Except ReadFault Cell × Cursor :=
  match cursor.hasNext columns with
  | .error fault => (.error fault, cursor)
  | .ok false => (.error (.noSuchElement "no more field to read"), cursor)
  | .ok true =>
      match cursor.row[cursor.column]? with
      | some cell =>
          (.ok cell,
            { cursor with
              row := cursor.row.set cursor.column .null
              column := cursor.column + 1 })
      | none => (.error (.noSuchElement "row is shorter than its metadata"), cursor)

def columnType (columns : Metadata) (cursor : Cursor) : Except ReadFault StoredType := do
  cursor.check
  match cursor.column with
  | 0 => .error (.state "no field has yet been read")
  | read + 1 =>
      match columns[read]? with
      | some column => return column.type
      | none => .error (.state "all fields have already been read")

end Cursor

namespace TableReader

variable {ρ : Type} [TableReader ρ]

def restOfRow : (fuel : Nat) → ρ → Except ReadFault Row × ρ
  | 0, reader => (.ok [], reader)
  | fuel + 1, reader =>
      match hasNextColumn reader with
      | .error fault => (.error fault, reader)
      | .ok false => (.ok [], reader)
      | .ok true =>
          match nextColumn reader with
          | (.error fault, reader) => (.error fault, reader)
          | (.ok cell, reader) =>
              match restOfRow fuel reader with
              | (.error fault, reader) => (.error fault, reader)
              | (.ok cells, reader) => (.ok (cell :: cells), reader)

def readRow (reader : ρ) : Except ReadFault (Option Row) × ρ :=
  match nextRow reader with
  | (.error fault, reader) => (.error fault, reader)
  | (.ok false, reader) => (.ok none, reader)
  | (.ok true, reader) =>
      let (columns, reader) := metadata reader
      let fuel := match columns with
        | .ok columns => columns.length
        | .error _ => 0
      match restOfRow (fuel + 1) reader with
      | (.error fault, reader) => (.error fault, reader)
      | (.ok cells, reader) => (.ok (some cells), reader)

def readRows : (fuel : Nat) → ρ → (List Row × Option ReadFault) × ρ
  | 0, reader => (([], none), reader)
  | fuel + 1, reader =>
      match readRow reader with
      | (.error fault, reader) => (([], some fault), reader)
      | (.ok none, reader) => (([], none), reader)
      | (.ok (some row), reader) =>
          let ((rows, fault), reader) := readRows fuel reader
          ((row :: rows, fault), reader)

def drain (reader : ρ) : (List Row × Option ReadFault) × ρ :=
  readRows (remaining reader + 1) reader

end TableReader

end TableIntake

import TableIntake.Reader.Basic

/-! # Tables in memory -/

namespace TableIntake

structure MemoryReader where
  columns : Metadata
  rows : List Row
  cursor : Cursor := {}

namespace MemoryReader

def ofRows (columns : Metadata) (rows : List Row) : MemoryReader :=
  { columns := columns, rows := rows }

def close (reader : MemoryReader) : MemoryReader :=
  { reader with rows := [], cursor := reader.cursor.finish }

def wrongWidth (found expected : Nat) : ReadFault :=
  .state ("row has " ++ toString found ++ " values, expected " ++ toString expected)

/-- A row of the wrong width closes the table. -/
def nextRow (reader : MemoryReader) : Except ReadFault Bool × MemoryReader :=
  if reader.cursor.ended then
    (.ok false, reader)
  else
    let cursor := reader.cursor.start
    match reader.rows with
    | [] => (.ok false, { reader with cursor := cursor.finish })
    | row :: rows =>
        if row.length = reader.columns.length then
          (.ok true, { reader with rows := rows, cursor := cursor.load row })
        else
          (.error (wrongWidth row.length reader.columns.length),
            { reader with cursor := cursor }.close)

instance : TableReader MemoryReader where
  metadata reader := (.ok reader.columns, reader)
  nextRow := nextRow
  hasNextColumn reader := reader.cursor.hasNext reader.columns.length
  nextColumn reader :=
    let (answer, cursor) := reader.cursor.next reader.columns.length
    (answer, { reader with cursor := cursor })
  columnType reader := reader.cursor.columnType reader.columns
  rowByteSize reader := reader.cursor.rowSize
  close := close
  remaining reader := reader.rows.length

end MemoryReader

end TableIntake

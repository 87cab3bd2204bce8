import TableIntake.Reader.Basic
import TableIntake.Stream.Basic

/-! # Tables from a stream -/

namespace TableIntake

/-- How a stream came to its end for the reader. A fault is no such end. -/
inductive EndReason where
  | exhausted
  | cancelled
deriving DecidableEq, Repr

/-- Reads the rows that a parser hands over. The metadata is asked for once. -/
structure StreamReader where
  stream : Stream
  cursor : Cursor := {}
  known : Option Metadata := none
  rowsRead : Nat := 0
  endReason : Option EndReason := none

namespace StreamReader

def start (steps : List ParserStep) (impatient : Bool) : StreamReader :=
  { stream := .start steps impatient }

/-- Before the metadata is known a row has no columns. -/
def columns (reader : StreamReader) : Metadata :=
  reader.known.getD []

def wasCancelled (reader : StreamReader) : Bool :=
  reader.endReason = some .cancelled

/-- A stream that is over without metadata has no columns. -/
def metadata (reader : StreamReader) : Except ReadFault Metadata × StreamReader :=
  match reader.known with
  | some columns => (.ok columns, reader)
  | none =>
      match reader.stream.metadata with
      | (.error fault, stream) => (.error fault, { reader with stream := stream })
      | (.ok (some columns), stream) =>
          (.ok columns, { reader with stream := stream, known := some columns })
      | (.ok none, stream) =>
          let reason := if stream.handoff.isCancelled then .cancelled else .exhausted
          (.ok [], { reader with stream := stream, known := some [], endReason := some reason })

def close (reader : StreamReader) : StreamReader :=
  { reader with
    stream := reader.stream.cancel
    cursor := if reader.cursor.ended then reader.cursor else reader.cursor.finish
    endReason := reader.endReason.or (some .cancelled) }

def wrongWidth (row found expected : Nat) : ReadFault :=
  .parse (.format ("row " ++ toString row ++ " has " ++ toString found ++ " values, expected " ++
    toString expected))

/-- The row that the parser handed over. One of the wrong width closes the table. -/
def takeRow (row : Row) (reader : StreamReader) : Except ReadFault Bool × StreamReader :=
  if row.length = reader.columns.length then
    (.ok true,
      { reader with rowsRead := reader.rowsRead + 1, cursor := reader.cursor.load row })
  else
    (.error (wrongWidth (reader.rowsRead + 1) row.length reader.columns.length), reader.close)

def finish (reason : EndReason) (reader : StreamReader) : StreamReader :=
  { reader with cursor := reader.cursor.finish, endReason := some reason }

def fetchRow (reader : StreamReader) : Except ReadFault Bool × StreamReader :=
  let (answer, stream) := reader.stream.fetch
  let reader := { reader with stream := stream }
  match answer with
  | .ok (.row row) => reader.takeRow row
  | .ok .ended => (.ok false, reader.finish .exhausted)
  | .ok .cancelled => (.ok false, reader.finish .cancelled)
  | .error fault => (.error fault, { reader with cursor := reader.cursor.finish })

/-- The first row needs the metadata. While that is refused, every call is. -/
def nextRow (reader : StreamReader) : Except ReadFault Bool × StreamReader :=
  if reader.cursor.ended then
    (.ok false, reader)
  else if reader.cursor.started then
    reader.fetchRow
  else
    match reader.metadata with
    | (.error fault, reader) => (.error fault, reader)
    | (.ok _, reader) => { reader with cursor := reader.cursor.start }.fetchRow

instance : TableReader StreamReader where
  metadata := metadata
  nextRow := nextRow
  hasNextColumn reader := reader.cursor.hasNext reader.columns.length
  nextColumn reader :=
    let (answer, cursor) := reader.cursor.next reader.columns.length
    (answer, { reader with cursor := cursor })
  columnType reader := reader.cursor.columnType reader.columns
  rowByteSize reader := reader.cursor.rowSize
  close := close
  remaining reader := reader.stream.remaining

/-- Cancels from elsewhere. The reader learns of it at its next access. -/
def cancel (reader : StreamReader) : StreamReader :=
  { reader with stream := reader.stream.cancel }

def isCancelled (reader : StreamReader) : Bool :=
  reader.stream.handoff.isCancelled

def settle (reader : StreamReader) : StreamReader :=
  { reader with stream := reader.stream.settle }

def isProducerGone (reader : StreamReader) : Bool :=
  reader.stream.producer.isGone

end StreamReader

end TableIntake

import TableIntake.Reader.Basic

/-! # Calls to readers

What can be asked of a reader, as data. A history of calls has one answer for each, so
two readers behave alike if they answer every history alike.
-/

namespace TableIntake

inductive ReaderCall where
  | metadata
  | nextRow
  | hasNextColumn
  | nextColumn
  | columnType
  | rowByteSize
  | close
deriving DecidableEq, Repr

/-- A fault takes the place of the answer in every call that can be refused. -/
inductive ReaderAnswer where
  | metadata (columns : Metadata)
  | truth (value : Bool)
  | cell (cell : Cell)
  | type (type : StoredType)
  | size (bytes : Nat)
  | closed
  | fault (fault : ReadFault)

namespace ReaderAnswer

def ofExcept (answer : α → ReaderAnswer) : Except ReadFault α → ReaderAnswer
  | .ok value => answer value
  | .error refusal => .fault refusal

end ReaderAnswer

namespace TableReader

variable {ρ : Type} [TableReader ρ]

def call (call : ReaderCall) (reader : ρ) : ReaderAnswer × ρ :=
  match call with
  | .metadata =>
      let (answer, reader) := metadata reader
      (.ofExcept .metadata answer, reader)
  | .nextRow =>
      let (answer, reader) := nextRow reader
      (.ofExcept .truth answer, reader)
  | .hasNextColumn => (.ofExcept .truth (hasNextColumn reader), reader)
  | .nextColumn =>
      let (answer, reader) := nextColumn reader
      (.ofExcept .cell answer, reader)
  | .columnType => (.ofExcept .type (columnType reader), reader)
  | .rowByteSize => (.size (rowByteSize reader), reader)
  | .close => (.closed, close reader)

def answers : List ReaderCall → ρ → List ReaderAnswer × ρ
  | [], reader => ([], reader)
  | next :: rest, reader =>
      let (answer, reader) := call next reader
      let (others, reader) := answers rest reader
      (answer :: others, reader)

end TableReader

end TableIntake

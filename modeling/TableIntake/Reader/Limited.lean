import TableIntake.Reader.Basic

/-! # Tables under a quota -/

namespace TableIntake

/-- Counts the rows of another reader, and refuses the rest once there are too many. -/
structure LimitedReader (ρ : Type) where
  inner : ρ
  quota : Quota
  consumed : UInt64 := 0
  exceeded : Bool := false

namespace LimitedReader

variable {ρ : Type} [TableReader ρ]

def limit (inner : ρ) (quota : Quota) : LimitedReader ρ :=
  { inner := inner, quota := quota }

def check (reader : LimitedReader ρ) : Except ReadFault Unit :=
  if reader.exceeded then .error (.state "data read limit exceeded") else .ok ()

/-- The row that exceeds the quota is counted but not read. -/
def nextRow (reader : LimitedReader ρ) : Except ReadFault Bool × LimitedReader ρ :=
  if reader.exceeded then
    (.error (.quotaExceeded reader.quota), reader)
  else
    match TableReader.nextRow reader.inner with
    | (.error fault, inner) => (.error fault, { reader with inner := inner })
    | (.ok false, inner) => (.ok false, { reader with inner := inner })
    | (.ok true, inner) =>
        let cost := reader.quota.cost (TableReader.rowByteSize inner)
        let consumed := Quota.count reader.consumed cost
        if reader.quota.isExceeded consumed then
          (.error (.quotaExceeded reader.quota),
            { reader with inner := inner, consumed := consumed, exceeded := true })
        else
          (.ok true, { reader with inner := inner, consumed := consumed })

instance : TableReader (LimitedReader ρ) where
  metadata reader :=
    let (answer, inner) := TableReader.metadata reader.inner
    (answer, { reader with inner := inner })
  nextRow := nextRow
  hasNextColumn reader := do
    reader.check
    TableReader.hasNextColumn reader.inner
  nextColumn reader :=
    match reader.check with
    | .error fault => (.error fault, reader)
    | .ok () =>
        let (answer, inner) := TableReader.nextColumn reader.inner
        (answer, { reader with inner := inner })
  columnType reader := do
    reader.check
    TableReader.columnType reader.inner
  rowByteSize reader := if reader.exceeded then 0 else TableReader.rowByteSize reader.inner
  close reader := { reader with inner := TableReader.close reader.inner }
  remaining reader := TableReader.remaining reader.inner

end LimitedReader

end TableIntake

import TableIntake.Proofs.Reader.Columns
import TableIntake.Proofs.Reader.Keeping
import TableIntake.Proofs.Reader.Serving
import TableIntake.Proofs.Stream.Succession

/-! # Taking rows

Whoever takes row after row from a stream under a quota gets the first of the rows that are to come
of it, and as long as none of them is refused their costs are within the limit.
-/

namespace TableIntake

open TableReader

/-! ## Streams -/

namespace StreamReader

variable {reader next last : StreamReader} {columns : Metadata} {row served : Row}

structure Loaded (reader : StreamReader) (row : Row) (next : StreamReader) : Prop where
  stands : next.Stands row
  size : next.cursor.rowSize = row.byteSize
  width : row.length = next.columns.length
  known : next.known = reader.known
  first : row :: next.stream.coming <+: reader.stream.coming

theorem coming_metadata (reader : StreamReader) :
    reader.metadata.2.stream.coming <+: reader.stream.coming := by
  have later := reader.stream.coming_metadata
  have learned := reader.metadata_learned
  generalize reader.metadata = result at learned ⊢
  cases learned with
  | known => exact List.prefix_refl _
  | refused | told | bare => exact later

theorem fetchRow_loaded (fetches : reader.fetchRow = (.ok true, next)) :
    ∃ row, reader.Loaded row next := by
  have came := reader.fetchRow_fetches
  rw [fetches] at came
  cases came with
  | row told fits => exact ⟨_, ⟨rfl, rfl⟩, rfl, fits, rfl, Stream.coming_fetch told⟩

theorem nextRow_loaded (known : reader.known = some columns)
    (moves : reader.nextRow = (.ok true, next)) : ∃ row, reader.Loaded row next := by
  have told : reader.metadata = (.ok columns, reader) := by rw [StreamReader.metadata, known]
  have advanced := reader.nextRow_advanced
  rw [moves] at advanced
  generalize result : (Except.ok true, next) = came at advanced
  cases advanced with
  | behind | refused => cases result
  | further => exact fetchRow_loaded result.symm
  | first =>
      rw [told] at result
      rcases fetchRow_loaded result.symm with ⟨row, loaded⟩
      exact ⟨row, { loaded with }⟩

theorem kept_of_servesRow (serves : ServesRow reader row last) :
    last.stream = reader.stream ∧ last.known = reader.known := by
  induction serves with
  | nil => exact ⟨rfl, rfl⟩
  | @cons reader next last cell row gives rest induction =>
      obtain rfl : _ = next := congrArg Prod.snd gives
      exact induction

theorem Loaded.served_eq (loaded : reader.Loaded row next) (serves : ServesRow next served last)
    (wide : served.length = next.columns.length) : served = row := by
  have same : served.length = row.length := wide.trans loaded.width.symm
  apply List.ext_getElem same
  intro index within within'
  have here := getElem?_of_servesRow serves (List.getElem?_eq_getElem within)
  rw [loaded.stands.row, loaded.stands.column, Nat.zero_add,
    List.getElem?_eq_getElem within'] at here
  exact (Option.some.inj here).symm

end StreamReader

/-! ## Quotas -/

namespace LimitedReader

variable {limited standing next last : LimitedReader StreamReader} {columns : Metadata} {row : Row}
  {rows : List Row} {quota : Quota} {sizes : List Nat}

theorem eq_of_servesRow (serves : ServesRow limited row last) :
    last = { limited with inner := last.inner } := by
  induction serves with
  | nil => rfl
  | @cons limited next last cell row gives rest induction =>
      simp only [nextColumn] at gives
      split at gives
      · cases gives
      · obtain rfl : _ = next := congrArg Prod.snd gives
        exact induction

theorem Beside.passed (beside : limited.Beside quota sizes limited.inner)
    (within : limited.exceeded = false) (moves : limited.nextRow = (.ok true, next)) :
    next.Beside quota (sizes ++ [next.inner.cursor.rowSize]) next.inner ∧
      next.exceeded = false := by
  have bare : TableReader.nextRow limited.inner = (.ok true, next.inner) := inner_nextRow moves
  have counted := beside.nextRow
  have answer := beside.nextRow_answer within
  simp only [moves, gained, bare] at counted answer
  cases flag : next.exceeded with
  | false => exact ⟨counted, rfl⟩
  | true => simp [flag] at answer

/-- A reader of a table with these columns, that has passed on rows of these sizes and may get these
rows yet. -/
structure Passing (limited : LimitedReader StreamReader) (quota : Quota) (columns : Metadata)
    (sizes : List Nat) (coming : List Row) : Prop where
  beside : limited.Beside quota sizes limited.inner
  within : limited.exceeded = false
  known : limited.inner.known = some columns
  coming : limited.inner.stream.coming <+: coming

namespace Passing

variable {coming : List Row}

theorem start {reader : StreamReader}
    (told : TableReader.metadata (.limit reader quota) = (.ok columns, next)) :
    next.Passing quota columns [] reader.stream.coming := by
  have bare : reader.metadata = (.ok columns, next.inner) := inner_metadata told
  have known := reader.metadata_known
  have coming := reader.coming_metadata
  rw [bare] at known coming
  obtain rfl : _ = next := congrArg Prod.snd told
  exact ⟨(Beside.limit quota reader).keep _ fun _ => rfl, rfl, known, coming⟩

theorem not_exceeded (passing : limited.Passing quota columns sizes coming) :
    ¬quota.Exceeded (quota.total sizes) := by
  intro exceeded
  simpa [passing.within] using passing.beside.exceeded.mpr exceeded

theorem step (passing : limited.Passing quota columns sizes coming)
    (moves : limited.nextRow = (.ok true, standing)) (serves : ServesRow standing row next)
    (width : row.length = columns.length) :
    ∃ later, coming = row :: later ∧
      next.Passing quota columns (sizes ++ [row.byteSize]) later := by
  rcases StreamReader.nextRow_loaded passing.known (inner_nextRow moves) with ⟨first, loaded⟩
  have inner := servesRow_inner serves
  have knows := loaded.known.trans passing.known
  have wide : row.length = standing.inner.columns.length := by
    rw [width, StreamReader.columns_of_known knows]
  obtain rfl : row = first := loaded.served_eq inner wide
  rcases passing.beside.passed passing.within moves with ⟨counted, within⟩
  rw [loaded.size] at counted
  rcases StreamReader.kept_of_servesRow inner with ⟨stream, known⟩
  have moved := eq_of_servesRow serves
  have beside := counted.keep next.inner fun _ => rfl
  rw [← moved] at beside
  rcases loaded.first.trans passing.coming with ⟨rest, rfl⟩
  rw [← stream]
  refine ⟨next.inner.stream.coming ++ rest, rfl, beside, ?_, known.trans knows,
    List.prefix_append _ _⟩
  rw [moved]
  exact within

theorem run (passing : limited.Passing quota columns sizes coming)
    (yields : Yields columns.length limited rows last) :
    ∃ later, coming = rows ++ later ∧
      last.Passing quota columns (sizes ++ rows.map Row.byteSize) later := by
  induction yields generalizing sizes coming with
  | nil => exact ⟨coming, rfl, by simpa using passing⟩
  | row moves serves width _ induction =>
      rcases passing.step moves serves width with ⟨later, rfl, onward⟩
      rcases induction onward with ⟨rest, rfl, ended⟩
      refine ⟨rest, rfl, ?_⟩
      rwa [List.append_assoc] at ended

end Passing

end LimitedReader

end TableIntake

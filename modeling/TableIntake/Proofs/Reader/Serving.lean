import TableIntake.Proofs.Reader.Limits
import TableIntake.Proofs.Reader.Reading

/-! # Serving

What a reader serves to somebody who takes row after row, and of each row all its columns. A
stream serves the rows that its parser tells, and a quota cuts off those beyond its limit.
-/

namespace TableIntake

namespace TableReader

variable {ρ : Type} [TableReader ρ]

inductive ServesRow : ρ → Row → ρ → Prop
  | nil {reader : ρ} : ServesRow reader [] reader
  | cons {reader next last : ρ} {cell : Cell} {row : Row} :
      nextColumn reader = (.ok cell, next) →
      ServesRow next row last →
      ServesRow reader (cell :: row) last

/-- The next rows are these, up to the end of the table or to a fault. -/
inductive Serves : ρ → List Row → Option ReadFault → ρ → Prop
  | ended {reader last : ρ} :
      nextRow reader = (.ok false, last) →
      Serves reader [] none last
  | failed {reader last : ρ} {fault : ReadFault} :
      nextRow reader = (.error fault, last) →
      Serves reader [] (some fault) last
  | row {reader standing next last : ρ} {row : Row} {rows : List Row} {fault : Option ReadFault} :
      nextRow reader = (.ok true, standing) →
      rowByteSize standing = row.byteSize →
      ServesRow standing row next →
      Serves next rows fault last →
      Serves reader (row :: rows) fault last

/-- The next rows are these, each with so many columns. More of them may follow. -/
inductive Yields (width : Nat) : ρ → List Row → ρ → Prop
  | nil {reader : ρ} : Yields width reader [] reader
  | row {reader standing next last : ρ} {row : Row} {rows : List Row} :
      nextRow reader = (.ok true, standing) →
      ServesRow standing row next →
      row.length = width →
      Yields width next rows last →
      Yields width reader (row :: rows) last

end TableReader

open TableReader

/-! ## Streams -/

namespace StreamReader

variable {reader : StreamReader}

theorem servesRow (reader : StreamReader) (past rest : Row)
    (fits : (past ++ rest).length = reader.columns.length) :
    ServesRow { reader with cursor := .along (past ++ rest) past.length } rest
      { reader with cursor := .along (past ++ rest) (past ++ rest).length } := by
  induction rest generalizing past with
  | nil =>
      rw [List.append_nil]
      exact .nil
  | cons cell rest induction =>
      have here : (past ++ cell :: rest)[past.length]? = some cell := by simp
      have within : past.length < reader.columns.length := by simp [← fits]
      have split : past ++ cell :: rest = past ++ [cell] ++ rest := by simp
      have later := induction (past ++ [cell]) (by rw [← split, fits])
      rw [← split, List.length_append] at later
      have moves := Cursor.next_of_getElem? here within
      exact .cons (congrArg (fun moved => (moved.1, { reader with cursor := moved.2 })) moves) later

theorem nextColumn_ok {cell : Cell} {next : StreamReader}
    (gives : nextColumn reader = (.ok cell, next)) :
    reader.cursor.row[reader.cursor.column]? = some cell ∧
      next.cursor =
        { reader.cursor with
          row := reader.cursor.row.set reader.cursor.column .null
          column := reader.cursor.column + 1 } := by
  simp only [nextColumn, Cursor.next] at gives
  split at gives
  · cases gives
  · cases gives
  · split at gives
    next here =>
      cases gives
      exact ⟨here, rfl⟩
    next => cases gives

theorem getElem?_of_servesRow {last : StreamReader} {row : Row} {index : Nat} {cell : Cell}
    (serves : ServesRow reader row last) (here : row[index]? = some cell) :
    reader.cursor.row[reader.cursor.column + index]? = some cell := by
  induction serves generalizing index with
  | nil => cases here
  | cons gives rest induction =>
      rcases nextColumn_ok gives with ⟨first, moved⟩
      cases index with
      | zero =>
          cases here
          exact first
      | succ index =>
          have later := induction here
          rw [moved, List.getElem?_set_ne (by simp; omega)] at later
          rwa [Nat.add_assoc, Nat.add_comm 1] at later

structure Ready (reader : StreamReader) (columns : Metadata) (rows : List Row)
    (fault : Option ParseFault) : Prop where
  known : reader.known = some columns
  going : reader.cursor.ended = false
  owes : ∃ metadata, reader.stream.Owes ⟨metadata, rows, fault⟩

namespace Ready

variable {columns : Metadata} {row : Row} {rows : List Row} {fault : Option ParseFault}

theorem nextRow (ready : reader.Ready columns rows fault) :
    reader.nextRow = { reader with cursor := reader.cursor.start }.fetchRow := by
  unfold StreamReader.nextRow
  cases started : reader.cursor.started with
  | true =>
      simp [ready.going, Cursor.start_of_started started]
  | false => simp [ready.going, StreamReader.metadata, ready.known]

theorem nextRow_row (ready : reader.Ready columns (row :: rows) fault)
    (fits : row.length = columns.length) :
    ∃ standing, TableReader.nextRow reader = (.ok true, standing) ∧
      standing.cursor = ⟨true, false, row, 0, row.byteSize⟩ ∧
      standing.Ready columns rows fault := by
  rcases ready.owes with ⟨metadata, owes⟩
  rcases owes.fetch with ⟨told, rest⟩
  have width : row.length = reader.columns.length := by
    rw [columns_of_known ready.known, fits]
  let begun : StreamReader := { reader with cursor := reader.cursor.start }
  have first : begun.stream.fetch.1 = .ok (.row row) := told
  have fetched := fetchRow_fits first width
  have loaded : reader.cursor.start.load row = ⟨true, false, row, 0, row.byteSize⟩ := by
    simp [Cursor.load, Cursor.start, ready.going]
  exact ⟨_, ready.nextRow.trans fetched, loaded, ready.known, ready.going, metadata, rest⟩

theorem nextRow_end (ready : reader.Ready columns [] none) :
    ∃ last, TableReader.nextRow reader = (.ok false, last) ∧
      last.endReason = some .exhausted := by
  rcases ready.owes with ⟨metadata, owes⟩
  exact ⟨_, ready.nextRow.trans (fetchRow_ended owes.fetch.1), rfl⟩

theorem nextRow_fault {fault : ParseFault} (ready : reader.Ready columns [] (some fault)) :
    ∃ last, TableReader.nextRow reader = (.error (.parse fault), last) := by
  rcases ready.owes with ⟨metadata, owes⟩
  exact ⟨_, ready.nextRow.trans (fetchRow_error owes.fetch.1)⟩

theorem serves (ready : reader.Ready columns rows fault)
    (fits : ∀ row ∈ rows, row.length = columns.length) :
    ∃ last, Serves reader rows (fault.map .parse) last ∧
      (fault = none → last.endReason = some .exhausted) := by
  induction rows generalizing reader with
  | nil =>
      cases fault with
      | none =>
          rcases ready.nextRow_end with ⟨last, ended, reason⟩
          exact ⟨last, .ended ended, fun _ => reason⟩
      | some fault =>
          rcases ready.nextRow_fault with ⟨last, failed⟩
          exact ⟨last, .failed failed, nofun⟩
  | cons row rows induction =>
      rcases ready.nextRow_row (fits row (.head rows)) with ⟨standing, answer, stands, onward⟩
      have width : row.length = standing.columns.length := by
        rw [columns_of_known onward.known, fits row (.head rows)]
      have cells := servesRow standing [] row width
      have before : Cursor.along row 0 = standing.cursor := stands.symm
      simp only [List.nil_append, List.length_nil, before] at cells
      have next : { standing with cursor := .along row row.length }.Ready columns rows fault :=
        ⟨onward.known, rfl, onward.owes⟩
      rcases induction next fun other member => fits other (.tail row member) with
        ⟨last, later, reason⟩
      have size : rowByteSize standing = row.byteSize := congrArg Cursor.rowSize stands
      exact ⟨last, .row answer size cells later, reason⟩

end Ready

end StreamReader

/-! ## Quotas -/

namespace LimitedReader

variable {ρ : Type} [TableReader ρ] {limited : LimitedReader ρ} {quota : Quota}
  {sizes : List Nat} {bare standing next last : ρ} {row : Row} {rows : List Row}
  {fault : Option ReadFault}

theorem servesRow (within : limited.exceeded = false) (serves : ServesRow bare row last) :
    ServesRow { limited with inner := bare } row { limited with inner := last } := by
  induction serves with
  | nil => exact .nil
  | cons gives rest induction =>
      refine .cons ?_ induction
      simp [nextColumn, check, within, gives]

theorem servesRow_inner {limited last : LimitedReader ρ} (serves : ServesRow limited row last) :
    ServesRow limited.inner row last.inner := by
  induction serves with
  | nil => exact .nil
  | @cons limited next last cell row gives rest induction =>
      simp only [nextColumn] at gives
      split at gives
      · cases gives
      · rcases told : nextColumn limited.inner with ⟨answer, inner⟩
        rw [told] at gives
        cases gives
        exact .cons told induction

namespace Beside

theorem nextRow_row (beside : limited.Beside quota sizes bare)
    (before : limited.exceeded = false)
    (gives : TableReader.nextRow bare = (.ok true, standing)) :
    ∃ after, TableReader.nextRow limited =
        (if after.exceeded then .error (.quotaExceeded quota) else .ok true, after) ∧
      after.Beside quota (sizes ++ [rowByteSize standing]) standing := by
  have answer := beside.nextRow_answer before
  have counted := beside.nextRow
  simp only [gained, gives] at answer counted
  exact ⟨_, Prod.ext answer rfl, counted⟩

theorem serves_row (beside : limited.Beside quota sizes bare) (before : limited.exceeded = false)
    (gives : TableReader.nextRow bare = (.ok true, standing))
    (size : rowByteSize standing = row.byteSize) (cells : ServesRow standing row next)
    (within : ¬quota.Exceeded (quota.total (sizes ++ [row.byteSize]))) :
    ∃ after,
      after.Beside quota (sizes ++ [row.byteSize]) next ∧ after.exceeded = false ∧
        ∀ rows fault last, Serves after rows fault last →
          Serves limited (row :: rows) fault last := by
  rcases beside.nextRow_row before gives with ⟨standing', answer, counted⟩
  rw [size] at counted
  have passes := counted.exceeded_eq_false within
  have inner := counted.inner passes
  have cells := servesRow passes cells
  rw [← inner] at cells
  rw [passes] at answer
  refine ⟨{ standing' with inner := next }, counted.keep next fun _ => rfl, passes, ?_⟩
  intro rows fault last later
  refine .row answer ?_ cells later
  simp only [rowByteSize, passes, inner]
  exact size

/-- Within the limit all rows are served, with the end that follows them. Else the first row with
which the costs exceed the limit takes the place of an end. -/
theorem serves (beside : limited.Beside quota sizes bare) (before : limited.exceeded = false)
    (serves : Serves bare rows fault last) :
    (¬quota.Exceeded (quota.total (sizes ++ rows.map Row.byteSize)) ∧
        ∃ after, Serves limited rows fault after ∧ after.inner = last) ∨
      ∃ fitting row beyond after,
        rows = fitting ++ row :: beyond ∧
          ¬quota.Exceeded (quota.total (sizes ++ fitting.map Row.byteSize)) ∧
          quota.Exceeded (quota.total (sizes ++ (fitting ++ [row]).map Row.byteSize)) ∧
          Serves limited fitting (some (.quotaExceeded quota)) after := by
  have now : ¬quota.Exceeded (quota.total sizes) := by
    intro exceeded
    simpa [before] using beside.exceeded.mpr exceeded
  -- Each row that is within the limit joins the sizes that are already counted.
  induction serves generalizing limited sizes with
  | @ended bare last gives =>
      refine .inl ⟨by simpa using now, { limited with inner := last }, .ended ?_, rfl⟩
      simp [TableReader.nextRow, LimitedReader.nextRow, before, beside.inner before, gives]
  | @failed bare last fault gives =>
      refine .inl ⟨by simpa using now, { limited with inner := last }, .failed ?_, rfl⟩
      simp [TableReader.nextRow, LimitedReader.nextRow, before, beside.inner before, gives]
  | @row bare standing next last row rows fault gives size cells rest induction =>
      rw [List.map_cons, List.append_cons]
      by_cases exceeded : quota.Exceeded (quota.total (sizes ++ [row.byteSize]))
      · rcases beside.nextRow_row before gives with ⟨after, answer, counted⟩
        rw [size] at counted
        rw [counted.exceeded.mpr exceeded] at answer
        exact .inr ⟨[], row, rows, after, rfl, by simpa using now, exceeded, .failed answer⟩
      · rcases beside.serves_row before gives size cells exceeded with
          ⟨after, beside, before, onward⟩
        rcases induction beside before exceeded with ⟨within, final, later, same⟩ |
          ⟨fitting, other, beyond, final, split, within, exceeded, later⟩
        · exact .inl ⟨within, final, onward rows fault final later, same⟩
        · refine .inr ⟨row :: fitting, other, beyond, final, by rw [split]; rfl, ?_, ?_,
            onward fitting _ final later⟩
          · rwa [List.map_cons, List.append_cons]
          · rwa [List.cons_append, List.map_cons, List.append_cons]

end Beside

end LimitedReader

end TableIntake

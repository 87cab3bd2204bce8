import TableIntake.Proofs.Document.Transposition
import TableIntake.Proofs.Document.Undeclared

/-! # Documents that load

A column loads if its field resolves, its values all have cells, and the resolved column has a place
for each of them. A document loads if it can be read to its end and all its columns load. Where no
datatype is declared, only two things are against a column: values that cannot be converted, and
lists with gaps.
-/

namespace TableIntake

/-- The field resolves to a column with a place for the cells of all these values. -/
def Field.Loads (field : Field) (data : List Datum) : Prop :=
  ∃ column cells, field.declaration.column = .ok column ∧ field.type.cells data = .ok cells ∧
    ∀ cell ∈ cells, column.Takes cell

/-! ## Columns without declarations -/

namespace FieldType.ConvertsAll

variable {type : FieldType} {data : List Datum} {cells : List Cell}

theorem exists_cell (all : type.ConvertsAll data cells) {datum : Datum} (member : datum ∈ data) :
    ∃ cell ∈ cells, type.Converts datum cell := by
  rcases List.mem_iff_getElem?.mp member with ⟨position, here⟩
  have within := (List.getElem?_eq_some_iff.mp here).1
  have there := List.getElem?_eq_getElem (all.length.symm ▸ within)
  exact ⟨_, List.mem_of_getElem? there, all.cells position _ _ here there⟩

theorem exists_datum (all : type.ConvertsAll data cells) {cell : Cell} (member : cell ∈ cells) :
    ∃ datum ∈ data, type.Converts datum cell := by
  rcases List.mem_iff_getElem?.mp member with ⟨position, there⟩
  have within := (List.getElem?_eq_some_iff.mp there).1
  have here := List.getElem?_eq_getElem (all.length ▸ within)
  exact ⟨_, List.mem_of_getElem? here, all.cells position _ _ here there⟩

end FieldType.ConvertsAll

namespace Field

variable {field : Field} {data : List Datum}

theorem refuses_iff_gapped {column : Column} {datum : Datum} {cell : Cell}
    (undeclared : field.annotation? "datatype" = none)
    (resolves : field.declaration.column = .ok column) (converts : field.type.Converts datum cell) :
    ¬column.Takes cell ↔ field.type.Gapped datum := by
  rcases column_of_undeclared undeclared with ⟨known, resolved, storage⟩
  cases resolves.symm.trans resolved
  rw [Column.Takes, storage, converts.stored_iff, Classical.not_not]

theorem loads_iff {column : Column} {cells : List Cell}
    (resolves : field.declaration.column = .ok column) (reads : field.type.cells data = .ok cells) :
    field.Loads data ↔ ∀ cell ∈ cells, column.Takes cell := by
  constructor
  · rintro ⟨_, _, resolves', reads', takes⟩
    cases resolves.symm.trans resolves'
    cases reads.symm.trans reads'
    exact takes
  · exact fun takes => ⟨column, cells, resolves, reads, takes⟩

theorem not_loads_iff_of_undeclared (undeclared : field.annotation? "datatype" = none)
    (holds : ∀ datum ∈ data, field.type.Holds datum) :
    ¬field.Loads data ↔
      (∃ breakdown, field.type.Breaks data breakdown) ∨
        ∃ datum ∈ data, field.type.Gapped datum := by
  rcases column_of_undeclared undeclared with ⟨column, resolves, _⟩
  cases reads : field.type.cells data with
  | error breakdown =>
      have breaks := (FieldType.cells_eq_error_iff holds).mp reads
      refine iff_of_true ?_ (.inl ⟨breakdown, breaks⟩)
      rintro ⟨_, _, _, known, _⟩
      cases reads.symm.trans known
  | ok cells =>
      have all := FieldType.convertsAll_of_cells holds reads
      rw [loads_iff resolves reads, Classical.not_forall]
      constructor
      · rintro ⟨cell, refuses⟩
        rcases Classical.not_imp.mp refuses with ⟨member, refuses⟩
        rcases all.exists_datum member with ⟨datum, among, converts⟩
        exact .inr ⟨datum, among, (refuses_iff_gapped undeclared resolves converts).mp refuses⟩
      · rintro (⟨breakdown, breaks⟩ | ⟨datum, among, gapped⟩)
        · rw [← FieldType.cells_eq_error_iff holds, reads] at breaks
          cases breaks
        · rcases all.exists_cell among with ⟨cell, member, converts⟩
          refine ⟨cell, fun takes => ?_⟩
          exact (refuses_iff_gapped undeclared resolves converts).mpr gapped (takes member)

end Field

/-! ## Batches -/

/-- The rows of some columns can be stored if the cells of each column can. -/
theorem storable_rowsOf_iff {columns : Metadata} {count : Nat} {cells : List (List Cell)}
    (width : cells.length = columns.length) (heights : ∀ values ∈ cells, values.length = count) :
    (∀ row ∈ rowsOf count cells, row.Storable columns) ↔
      ∀ entry ∈ columns.zip cells, ∀ cell ∈ entry.2, entry.1.Takes cell := by
  constructor
  · rintro storable ⟨column, values⟩ member cell inside
    rcases List.mem_iff_getElem?.mp member with ⟨index, here⟩
    rcases List.getElem?_zip_eq_some.mp here with ⟨known, there⟩
    rcases List.mem_iff_getElem?.mp inside with ⟨position, found⟩
    have below : position < count := by
      rw [← heights values (List.mem_of_getElem? there)]
      exact (List.getElem?_eq_some_iff.mp found).1
    rw [← length_rowsOf count cells] at below
    have row := List.getElem?_eq_getElem below
    have shown := getElem?_rowsOf row there
    rw [found, Option.getD_some] at shown
    have entry : (column, cell) ∈ columns.zip (rowsOf count cells)[position] :=
      List.mem_of_getElem? (List.getElem?_zip_eq_some.mpr ⟨known, shown⟩)
    exact storable _ (List.mem_of_getElem? row) _ entry
  · rintro takes row member ⟨column, cell⟩ inside
    rcases List.mem_iff_getElem?.mp member with ⟨position, there⟩
    have below := (List.getElem?_eq_some_iff.mp there).1
    rw [length_rowsOf] at below
    rcases List.mem_iff_getElem?.mp inside with ⟨index, here⟩
    rcases List.getElem?_zip_eq_some.mp here with ⟨known, found⟩
    have within := (List.getElem?_eq_some_iff.mp known).1
    have values := List.getElem?_eq_getElem (width.symm ▸ within)
    have entry : (column, cells[index]) ∈ columns.zip cells :=
      List.mem_of_getElem? (List.getElem?_zip_eq_some.mpr ⟨known, values⟩)
    have same := (getElem?_rowsOf there values).symm.trans found
    rw [← heights _ (List.mem_of_getElem? values)] at below
    rw [List.getElem?_eq_getElem below, Option.getD_some] at same
    cases same
    exact takes _ entry _ (List.getElem_mem below)

namespace Batch

variable {fields : List Field} {batch : Batch} {columns : Metadata}

theorem rowsOf_eq_ok_iff (nonempty : fields ≠ []) {rows : List Row} :
    batch.rowsOf fields = .ok rows ↔
      ∃ cells, batch.cells fields = .ok cells ∧ TableIntake.rowsOf batch.rows cells = rows := by
  rw [rowsOf, if_neg (by simpa using nonempty)]
  cases batch.cells fields <;> simp [Except.map]

theorem length_of_cells (fits : batch.Fits fields) {cells : List (List Cell)}
    (reads : batch.cells fields = .ok cells) : cells.length = fields.length := by
  have size : cells.length = (fields.zip batch.columns).length := length_of_mapM reads
  rw [size, List.length_zip, fits.width, Nat.min_self]

theorem getElem?_of_cells {cells : List (List Cell)} (reads : batch.cells fields = .ok cells)
    {index : Nat} {field : Field} {data : List Datum}
    (here : (fields.zip batch.columns)[index]? = some (field, data)) :
    ∃ values, cells[index]? = some values ∧ field.type.cells data = .ok values :=
  getElem?_of_mapM reads here

theorem Fits.exists_entry (fits : batch.Fits fields) {index : Nat}
    (within : index < fields.length) :
    ∃ data, (fields.zip batch.columns)[index]? = some (fields[index], data) ∧
      data.length = batch.rows := by
  rcases fits.exists_column within with ⟨data, column, -, height⟩
  have field := List.getElem?_eq_getElem within
  exact ⟨data, List.getElem?_zip_eq_some.mpr ⟨field, column⟩, height⟩

theorem heights_of_cells (fits : batch.Fits fields) {cells : List (List Cell)}
    (reads : batch.cells fields = .ok cells) : ∀ values ∈ cells, values.length = batch.rows := by
  intro values member
  rcases List.mem_iff_getElem?.mp member with ⟨index, there⟩
  have within := (List.getElem?_eq_some_iff.mp there).1
  rw [length_of_cells fits reads] at within
  rcases fits.exists_entry within with ⟨data, entry, height⟩
  rcases getElem?_of_cells reads entry with ⟨known, same, converts⟩
  cases there.symm.trans same
  have holds := fits.values _ (List.mem_of_getElem? entry)
  rw [(FieldType.convertsAll_of_cells holds converts).length, height]

theorem forall_loads_iff (fits : batch.Fits fields)
    (resolves : fields.mapM (·.declaration.column) = .ok columns) {cells : List (List Cell)}
    (reads : batch.cells fields = .ok cells) :
    (∀ entry ∈ fields.zip batch.columns, entry.1.Loads entry.2) ↔
      ∀ entry ∈ columns.zip cells, ∀ cell ∈ entry.2, entry.1.Takes cell := by
  constructor
  · rintro loads ⟨column, values⟩ member
    rcases List.mem_iff_getElem?.mp member with ⟨index, here⟩
    rcases List.getElem?_zip_eq_some.mp here with ⟨known, there⟩
    have within := (List.getElem?_eq_some_iff.mp there).1
    rw [length_of_cells fits reads] at within
    rcases fits.exists_entry within with ⟨data, entry, -⟩
    rcases getElem?_of_cells reads entry with ⟨_, same, converts⟩
    rcases getElem?_of_mapM resolves (List.getElem?_eq_getElem within) with ⟨_, same', resolved⟩
    cases there.symm.trans same
    cases known.symm.trans same'
    exact (Field.loads_iff resolved converts).mp (loads _ (List.mem_of_getElem? entry))
  · rintro takes ⟨field, data⟩ member
    rcases List.mem_iff_getElem?.mp member with ⟨index, here⟩
    rcases getElem?_of_cells reads here with ⟨values, there, converts⟩
    rcases getElem?_of_mapM resolves (List.getElem?_zip_eq_some.mp here).1 with
      ⟨column, known, resolved⟩
    have entry : (column, values) ∈ columns.zip cells :=
      List.mem_of_getElem? (List.getElem?_zip_eq_some.mpr ⟨known, there⟩)
    exact (Field.loads_iff resolved converts).mpr (takes _ entry)

/-- The rows of a batch can be had and stored if all its columns load. -/
theorem loads_iff (nonempty : fields ≠ []) (fits : batch.Fits fields)
    (resolves : fields.mapM (·.declaration.column) = .ok columns) :
    (∃ rows, batch.rowsOf fields = .ok rows ∧ ∀ row ∈ rows, row.Storable columns) ↔
      ∀ entry ∈ fields.zip batch.columns, entry.1.Loads entry.2 := by
  have storable {cells : List (List Cell)} (reads : batch.cells fields = .ok cells) :
      (∀ row ∈ TableIntake.rowsOf batch.rows cells, row.Storable columns) ↔
        ∀ entry ∈ fields.zip batch.columns, entry.1.Loads entry.2 := by
    have width : cells.length = columns.length := by
      rw [length_of_cells fits reads, length_of_mapM resolves]
    rw [forall_loads_iff fits resolves reads,
      storable_rowsOf_iff width (heights_of_cells fits reads)]
  constructor
  · rintro ⟨rows, told, stored⟩
    rcases (rowsOf_eq_ok_iff nonempty).mp told with ⟨cells, reads, rfl⟩
    exact (storable reads).mp stored
  · intro loads
    cases reads : batch.cells fields with
    | error breakdown =>
        rcases exists_of_mapM_error reads with ⟨_, entry, _, split, _, fails⟩
        rcases loads entry (by simp [split]) with ⟨_, _, _, converts, _⟩
        cases fails.symm.trans converts
    | ok cells =>
        have rows := (rowsOf_eq_ok_iff nonempty).mpr ⟨cells, reads, rfl⟩
        exact ⟨_, rows, (storable reads).mpr loads⟩

end Batch

namespace Document

variable {document : Document} {batches : List Batch} {columns : Metadata}

theorem loads_batches_iff {fields : List Field} (nonempty : fields ≠ [])
    (fits : ∀ batch ∈ batches, batch.Fits fields)
    (resolves : fields.mapM (·.declaration.column) = .ok columns) :
    ((rowsOfBatches fields batches).2 = none ∧
        ∀ row ∈ (rowsOfBatches fields batches).1, row.Storable columns) ↔
      ∀ batch ∈ batches, ∀ entry ∈ fields.zip batch.columns, entry.1.Loads entry.2 := by
  induction batches with
  | nil => simp [rowsOfBatches]
  | cons batch rest induction =>
      rw [List.forall_mem_cons, ← Batch.loads_iff nonempty (fits batch (.head rest)) resolves,
        ← induction fun other member => fits other (.tail batch member), rowsOfBatches]
      cases reads : batch.rowsOf fields with
      | error => simp
      | ok rows =>
          simp only [List.forall_mem_append, Except.ok.injEq, exists_eq_left']
          exact and_left_comm

/-- The document can be read to its end, and all its columns load. -/
structure Loads (document : Document) : Prop where
  shown : document.hidden? = none
  whole : document.isCut = false
  fields : ∀ field ∈ document.fields, ∃ column, field.declaration.column = .ok column
  columns : ∀ batch ∈ document.batches, ∀ entry ∈ document.fields.zip batch.columns,
    entry.1.Loads entry.2

theorem end?_eq_none_iff :
    document.end? = none ↔
      document.isCut = false ∧ (rowsOfBatches document.fields document.batches).2 = none := by
  unfold end? endOfBatches? readable
  cases document.isCut with
  | true =>
      refine iff_of_false ?_ (by simp)
      split <;> simp
  | false =>
      simp only [Bool.false_eq_true, if_false, true_and]
      split <;> simp_all

theorem loads_iff (wellFormed : document.WellFormed) (shown : document.hidden? = none)
    (resolves : document.header.metadata = .ok columns) :
    document.Loads ↔ document.end? = none ∧ ∀ row ∈ document.rows, row.Storable columns := by
  rw [Header.metadata_eq_mapM, header, List.mapM_map] at resolves
  have batches := loads_batches_iff wellFormed.fields wellFormed.batches resolves
  rw [end?_eq_none_iff, rows, readable, and_assoc]
  constructor
  · intro loads
    rw [if_neg (by simp [loads.whole])]
    exact ⟨loads.whole, batches.mpr loads.columns⟩
  · rintro ⟨whole, storable⟩
    rw [if_neg (by simp [whole])] at storable
    exact ⟨shown, whole, fun field member => of_mapM_ok resolves member, batches.mp storable⟩

end Document

end TableIntake

import TableIntake.Proofs.Document.Conversion
import TableIntake.Proofs.Store.Filling

/-! # Rows of columns

The rows of a document are what its columns are when all the batches are put behind each other: in
each row there is one value from each column, converted. Where one batch ends and the next one
begins is not to be seen.
-/

namespace TableIntake

/-- A batch for these fields: a column for each of them, with as many values of its type as the
batch has rows. -/
structure Batch.Fits (fields : List Field) (batch : Batch) : Prop where
  width : batch.columns.length = fields.length
  heights : ∀ column ∈ batch.columns, column.length = batch.rows
  values : ∀ entry ∈ fields.zip batch.columns, ∀ datum ∈ entry.2, entry.1.type.Holds datum

structure Document.WellFormed (document : Document) : Prop where
  fields : document.fields ≠ []
  batches : ∀ batch ∈ document.batches, batch.Fits document.fields

theorem Document.WellFormed.regular {document : Document} (wellFormed : document.WellFormed) :
    document.Regular where
  fields := wellFormed.fields
  columns batch member := (wellFormed.batches batch member).width

theorem Document.WellFormed.readable {document : Document} (wellFormed : document.WellFormed) :
    ∀ batch ∈ document.readable, batch.Fits document.fields :=
  fun batch member => wellFormed.batches batch (mem_of_mem_readable member)

/-- Why a batch cannot be read. Its leftmost column with something against it decides. -/
def Batch.Breaks (fields : List Field) (batch : Batch) (breakdown : Breakdown) : Prop :=
  ∃ before field data after, fields.zip batch.columns = before ++ (field, data) :: after ∧
    (∀ entry ∈ before, ∀ other, ¬entry.1.type.Breaks entry.2 other) ∧
    field.type.Breaks data breakdown

/-- The values of one column of all the batches. -/
def columnOf (batches : List Batch) (index : Nat) : List Datum :=
  batches.flatMap fun batch => batch.columns[index]?.getD []

/-- Rows with one value from each column of the batches, converted. -/
structure Transposes (fields : List Field) (batches : List Batch) (rows : List Row) : Prop where
  length : ∀ index, index < fields.length → (columnOf batches index).length = rows.length
  width : ∀ row ∈ rows, row.length = fields.length
  cells : ∀ (position index : Nat) row field, rows[position]? = some row →
    fields[index]? = some field →
    ∃ datum cell, (columnOf batches index)[position]? = some datum ∧ row[index]? = some cell ∧
      field.type.Converts datum cell

theorem columnOf_cons (batch : Batch) (rest : List Batch) (index : Nat) :
    columnOf (batch :: rest) index = columnOf [batch] index ++ columnOf rest index := by
  simp [columnOf]

/-! ## Rows of one batch -/

theorem length_rowsOf (count : Nat) (columns : List (List Cell)) :
    (rowsOf count columns).length = count := by
  induction count generalizing columns with
  | zero => rfl
  | succ count induction => rw [rowsOf, List.length_cons, induction]

theorem getElem?_rowsOf {count position : Nat} {columns : List (List Cell)} {row : Row}
    (here : (rowsOf count columns)[position]? = some row) {index : Nat} {cells : List Cell}
    (column : columns[index]? = some cells) : row[index]? = some (cells[position]?.getD .null) := by
  induction count generalizing columns position cells with
  | zero => cases here
  | succ count induction =>
      cases position with
      | zero =>
          cases here
          rw [List.getElem?_map, column]
          cases cells <;> rfl
      | succ position =>
          have tails : (columns.map List.tail)[index]? = some cells.tail := by
            rw [List.getElem?_map, column]
            rfl
          rw [induction here tails]
          cases cells <;> rfl

namespace Batch

variable {fields : List Field} {batch : Batch} {rows : List Row} {breakdown : Breakdown}

theorem cells_eq_error_iff (fits : batch.Fits fields) :
    batch.cells fields = .error breakdown ↔ batch.Breaks fields breakdown := by
  have same {entry : Field × List Datum} (member : entry ∈ fields.zip batch.columns)
      (other : Breakdown) :
      entry.1.type.cells entry.2 = .error other ↔ entry.1.type.Breaks entry.2 other :=
    FieldType.cells_eq_error_iff (fits.values entry member)
  unfold cells Breaks
  rw [mapM_eq_error_iff]
  constructor
  · rintro ⟨before, ⟨field, data⟩, after, split, fine, fails⟩
    have member : (field, data) ∈ fields.zip batch.columns := by simp [split]
    refine ⟨before, field, data, after, split, ?_, (same member breakdown).mp fails⟩
    intro entry earlier other breaks
    exact fine entry earlier other ((same (by simp [split, earlier]) other).mpr breaks)
  · rintro ⟨before, field, data, after, split, fine, breaks⟩
    have member : (field, data) ∈ fields.zip batch.columns := by simp [split]
    refine ⟨before, (field, data), after, split, ?_, (same member breakdown).mpr breaks⟩
    intro entry earlier other fails
    exact fine entry earlier other ((same (by simp [split, earlier]) other).mp fails)

theorem rowsOf_eq_error_iff (nonempty : fields ≠ []) (fits : batch.Fits fields) :
    batch.rowsOf fields = .error breakdown ↔ batch.Breaks fields breakdown := by
  rw [← cells_eq_error_iff fits, rowsOf, if_neg (by simpa using nonempty)]
  cases batch.cells fields <;> simp [Except.map]

theorem Fits.exists_column (fits : batch.Fits fields) {index : Nat}
    (within : index < fields.length) :
    ∃ data, batch.columns[index]? = some data ∧ columnOf [batch] index = data ∧
      data.length = batch.rows := by
  have there := List.getElem?_eq_getElem (fits.width.symm ▸ within)
  refine ⟨_, there, ?_, fits.heights _ (List.mem_of_getElem? there)⟩
  simp [columnOf, there]

theorem transposes (nonempty : fields ≠ []) (fits : batch.Fits fields)
    (reads : batch.rowsOf fields = .ok rows) : Transposes fields [batch] rows := by
  have whole := reads
  rw [rowsOf, if_neg (by simpa using nonempty)] at reads
  cases columns : batch.cells fields with
  | error =>
      rw [columns] at reads
      cases reads
  | ok cells =>
      rw [columns] at reads
      obtain rfl : TableIntake.rowsOf batch.rows cells = rows := Except.ok.inj reads
      refine ⟨?_, ?_, ?_⟩
      · intro index within
        rcases fits.exists_column within with ⟨data, _, rfl, height⟩
        rw [height, length_rowsOf]
      · intro row member
        exact Document.length_of_mem_batch fits.width whole member
      · intro position index row field here there
        have within : index < fields.length := (List.getElem?_eq_some_iff.mp there).1
        rcases fits.exists_column within with ⟨data, column, rfl, height⟩
        have entry : (fields.zip batch.columns)[index]? = some (field, columnOf [batch] index) :=
          List.getElem?_zip_eq_some.mpr ⟨there, column⟩
        rcases getElem?_of_mapM columns entry with ⟨values, beside, converts⟩
        have values' := fits.values _ (List.mem_of_getElem? entry)
        have each := FieldType.convertsAll_of_cells values' converts
        have below : position < batch.rows := by
          have bound := (List.getElem?_eq_some_iff.mp here).1
          rwa [length_rowsOf] at bound
        have datum := List.getElem?_eq_getElem (height.symm ▸ below)
        have cell := List.getElem?_eq_getElem (each.length.trans height ▸ below)
        refine ⟨_, _, datum, ?_, each.cells position _ _ datum cell⟩
        rw [getElem?_rowsOf here beside, cell, Option.getD_some]

end Batch

/-! ## Rows of more batches -/

namespace Transposes

variable {fields : List Field} {batch : Batch} {left right rest : List Batch}
  {rows others : List Row}

theorem nil (fields : List Field) : Transposes fields [] [] where
  length _ _ := rfl
  width := nofun
  cells := nofun

theorem append (first : Transposes fields [batch] rows) (later : Transposes fields rest others) :
    Transposes fields (batch :: rest) (rows ++ others) where
  length index within := by
    rw [columnOf_cons, List.length_append, List.length_append, first.length index within,
      later.length index within]
  width row member := by
    rcases List.mem_append.mp member with here | there
    · exact first.width row here
    · exact later.width row there
  cells position index row field here there := by
    have within : index < fields.length := (List.getElem?_eq_some_iff.mp there).1
    have size := first.length index within
    rw [columnOf_cons]
    rcases Nat.lt_or_ge position rows.length with earlier | behind
    · rw [List.getElem?_append_left earlier] at here
      rw [List.getElem?_append_left (size.symm ▸ earlier)]
      exact first.cells position index row field here there
    · rw [List.getElem?_append_right behind] at here
      rw [List.getElem?_append_right (size.symm ▸ behind), size]
      exact later.cells (position - rows.length) index row field here there

theorem of_columns (transposes : Transposes fields left rows)
    (same : ∀ index, columnOf left index = columnOf right index) :
    Transposes fields right rows where
  length index within := by rw [← same, transposes.length index within]
  width := transposes.width
  cells position index row field here there := by
    rw [← same]
    exact transposes.cells position index row field here there

theorem unique (nonempty : fields ≠ []) (transposes : Transposes fields left rows)
    (again : Transposes fields left others) : rows = others := by
  have first : 0 < fields.length := List.length_pos_iff.mpr nonempty
  have size : rows.length = others.length := by
    rw [← transposes.length 0 first, again.length 0 first]
  apply List.ext_getElem size
  intro position within within'
  have here := List.getElem?_eq_getElem within
  have here' := List.getElem?_eq_getElem within'
  have width := transposes.width _ (List.getElem_mem within)
  have width' := again.width _ (List.getElem_mem within')
  apply List.ext_getElem (width.trans width'.symm)
  intro index inside inside'
  have there := List.getElem?_eq_getElem (width ▸ inside)
  rcases transposes.cells position index _ _ here there with ⟨datum, cell, value, inRow, converts⟩
  rcases again.cells position index _ _ here' there with ⟨datum', cell', value', inRow', converts'⟩
  cases value.symm.trans value'
  rw [List.getElem?_eq_getElem inside] at inRow
  rw [List.getElem?_eq_getElem inside'] at inRow'
  cases inRow
  cases inRow'
  exact converts.unique converts'

end Transposes

/-! ## Rows of all the batches -/

def Reads (fields : List Field) (batches : List Batch) : Prop :=
  ∀ batch ∈ batches, ∀ breakdown, ¬batch.Breaks fields breakdown

/-- The batches before the first one that cannot be read, and what is against that. -/
inductive Intact (fields : List Field) (batches : List Batch) :
    List Batch → Option Breakdown → Prop
  | whole : Reads fields batches → Intact fields batches batches none
  | broken {intact rest : List Batch} {batch : Batch} {breakdown : Breakdown} :
      intact ++ batch :: rest = batches →
      Reads fields intact →
      batch.Breaks fields breakdown →
      Intact fields batches intact (some breakdown)

namespace Intact

variable {fields : List Field} {batch : Batch} {rest batches intact others : List Batch}
  {rows : List Row} {breakdown another : Option Breakdown}

theorem cons (nonempty : fields ≠ []) (fits : batch.Fits fields)
    (reads : batch.rowsOf fields = .ok rows) (later : Intact fields rest intact breakdown) :
    Intact fields (batch :: rest) (batch :: intact) breakdown := by
  have fine (breakdown : Breakdown) : ¬batch.Breaks fields breakdown := by
    rw [← Batch.rowsOf_eq_error_iff nonempty fits, reads]
    nofun
  cases later with
  | whole reads => exact .whole (List.forall_mem_cons.mpr ⟨fine, reads⟩)
  | broken split reads breaks =>
      subst split
      exact .broken (List.cons_append ..) (List.forall_mem_cons.mpr ⟨fine, reads⟩) breaks

theorem rowsOfBatches (nonempty : fields ≠ []) (fits : ∀ batch ∈ batches, batch.Fits fields) :
    ∃ intact, Intact fields batches intact (Document.rowsOfBatches fields batches).2 ∧
      Transposes fields intact (Document.rowsOfBatches fields batches).1 := by
  induction batches with
  | nil => exact ⟨[], .whole (List.forall_mem_nil _), .nil fields⟩
  | cons batch rest induction =>
      have fit := fits batch (.head rest)
      rcases induction fun other member => fits other (.tail batch member) with
        ⟨intact, later, transposes⟩
      unfold Document.rowsOfBatches
      cases reads : batch.rowsOf fields with
      | error breakdown =>
          have breaks := (Batch.rowsOf_eq_error_iff nonempty fit).mp reads
          exact ⟨[], .broken rfl (List.forall_mem_nil _) breaks, .nil fields⟩
      | ok rows =>
          have first := Batch.transposes nonempty fit reads
          exact ⟨batch :: intact, later.cons nonempty fit reads, first.append transposes⟩

theorem of_rows (nonempty : fields ≠ []) (fits : ∀ batch ∈ batches, batch.Fits fields)
    (read : Document.rowsOfBatches fields batches = (rows, none)) :
    Intact fields batches batches none := by
  rcases rowsOfBatches nonempty fits with ⟨intact, before, _⟩
  rw [read] at before
  cases before with
  | whole reads => exact .whole reads

theorem unique (fits : ∀ batch ∈ batches, batch.Fits fields)
    (first : Intact fields batches intact breakdown)
    (second : Intact fields batches others another) : intact = others ∧ breakdown = another := by
  have misfit {batch : Batch} {breakdown : Breakdown} (breaks : batch.Breaks fields breakdown) :
      ¬∀ breakdown, ¬batch.Breaks fields breakdown := fun reads => reads breakdown breaks
  cases first with
  | whole reads =>
      cases second with
      | whole => exact ⟨rfl, rfl⟩
      | broken split _ breaks => exact absurd (reads _ (by simp [← split])) (misfit breaks)
  | @broken _ _ batch _ split reads breaks =>
      cases second with
      | whole reads' => exact absurd (reads' _ (by simp [← split])) (misfit breaks)
      | broken split' reads' breaks' =>
          have member : batch ∈ batches := by simp [← split]
          rcases first_misfit_unique
            (fun batch : Batch => ∀ breakdown : Breakdown, ¬batch.Breaks fields breakdown)
            (split.trans split'.symm) reads (misfit breaks) reads' (misfit breaks') with ⟨rfl, rfl⟩
          rw [← Batch.cells_eq_error_iff (fits batch member)] at breaks breaks'
          cases breaks.symm.trans breaks'
          exact ⟨rfl, rfl⟩

theorem columnOf_subset (before : Intact fields batches intact breakdown) (index : Nat) :
    columnOf intact index ⊆ columnOf batches index := by
  cases before with
  | whole => exact List.Subset.refl _
  | broken split =>
      rw [← split]
      simp [columnOf]

end Intact

theorem Document.WellFormed.exists_datum {document : Document} (wellFormed : document.WellFormed)
    {row : Row} (member : row ∈ document.rows) {index : Nat} {field : Field} {cell : Cell}
    (there : document.fields[index]? = some field) (here : row[index]? = some cell) :
    ∃ datum ∈ columnOf document.readable index, field.type.Converts datum cell := by
  rcases Intact.rowsOfBatches wellFormed.fields wellFormed.readable with
    ⟨intact, before, transposes⟩
  rcases List.mem_iff_getElem?.mp member with ⟨position, at_position⟩
  rcases transposes.cells position index row field at_position there with
    ⟨datum, other, known, same, converts⟩
  cases here.symm.trans same
  exact ⟨datum, before.columnOf_subset index (List.mem_of_getElem? known), converts⟩

end TableIntake

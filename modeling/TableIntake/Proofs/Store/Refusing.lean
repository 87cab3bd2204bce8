import TableIntake.Proofs.Store.Filling

/-! # Refused cells

A store does not take a table if its reader is at fault, or if a column refuses a cell. Columns that
take all their cells always make a table.
-/

namespace TableIntake

open TableReader

inductive RowRefused {ρ : Type} [TableReader ρ] (label : String) (columns : Metadata) (reader : ρ) :
    UploadFault → Prop
  | cell {last : ρ} {row : Row} {index : Nat} {column : Column} {cell : Cell} :
      ServesRow reader row last → columns[index]? = some column → row[index]? = some cell →
      ¬column.Takes cell →
      RowRefused label columns reader (Store.refusedCell label column cell)

inductive RowAppended {ρ : Type} [TableReader ρ] (label : String) (columns : Metadata)
    (builders : List ColumnBuilder) (reader : ρ) :
    Except UploadFault (List ColumnBuilder) × ρ → Prop
  | pushed {row : Row} {after : List ColumnBuilder} {last : ρ} :
      ServesRow reader row last → Pushes row builders after →
      RowAppended label columns builders reader (.ok after, last)
  | unread {refusal : ReadFault} {last : ρ} :
      RowAppended label columns builders reader (.error (.reading label refusal), last)
  | refused {fault : UploadFault} {last : ρ} :
      RowRefused label columns reader fault →
      RowAppended label columns builders reader (.error fault, last)

inductive RowsAppended {ρ : Type} [TableReader ρ] (Stands : ρ → Prop) (label : String)
    (columns : Metadata) (done : List Row) (count : Nat) (reader : ρ) :
    Except UploadFault (List ColumnBuilder × Nat) → Prop
  | built {rows : List Row} {builders : List ColumnBuilder} {last : ρ} :
      Yields columns.length reader rows last → Built columns (done ++ rows) builders →
      RowsAppended Stands label columns done count reader (.ok (builders, count + rows.length))
  | unread {refusal : ReadFault} :
      RowsAppended Stands label columns done count reader (.error (.reading label refusal))
  | refused {standing : ρ} {fault : UploadFault} :
      Stands standing → RowRefused label columns standing fault →
      RowsAppended Stands label columns done count reader (.error fault)

section

variable {ρ : Type} [TableReader ρ] {Holds Stands : ρ → Prop} {reader last : ρ} {label : String}
  {columns : Metadata} {done : List Row} {count : Nat} {builders : List ColumnBuilder}
  {fault : UploadFault}

theorem RowRefused.behind {column : Column} {cell : Cell} {next : ρ}
    (gives : nextColumn reader = (.ok cell, next)) (refused : RowRefused label columns next fault) :
    RowRefused label (column :: columns) reader fault := by
  cases refused with
  | @cell _ row index _ _ serves known here refuses =>
      have known : (column :: columns)[index + 1]? = some _ := known
      have here : (cell :: row)[index + 1]? = some _ := here
      exact .cell (.cons gives serves) known here refuses

theorem RowsAppended.nothing (built : Built columns done builders) :
    RowsAppended Stands label columns done count reader (.ok (builders, count)) := by
  have built : Built columns (done ++ []) builders := by rwa [List.append_nil]
  exact .built .nil built

theorem RowsAppended.behind {row : Row} {standing next : ρ}
    {result : Except UploadFault (List ColumnBuilder × Nat)}
    (moves : nextRow reader = (.ok true, standing)) (serves : ServesRow standing row next)
    (width : row.length = columns.length)
    (appended : RowsAppended Stands label columns (done ++ [row]) (count + 1) next result) :
    RowsAppended Stands label columns done count reader result := by
  cases appended with
  | @built rows _ _ yields built =>
      rw [Nat.add_assoc, Nat.add_comm 1, ← @List.length_cons _ row]
      rw [List.append_assoc] at built
      exact .built (.row moves serves width yields) built
  | unread => exact .unread
  | refused stands refused => exact .refused stands refused

namespace Store

theorem append?_eq_some {builder after : ColumnBuilder} {cell : Cell}
    (appends : builder.append? cell = some after) :
    ∃ value, Conversion builder.storage cell value ∧
      after = { builder with cells := builder.cells.push value } := by
  rcases Option.map_eq_some_iff.mp appends with ⟨value, stores, rfl⟩
  exact ⟨value, Storage.store?_eq_some_iff.mp stores, rfl⟩

theorem append?_eq_none_iff {builder : ColumnBuilder} {cell : Cell} :
    builder.append? cell = none ↔ ¬∃ value, Conversion builder.storage cell value := by
  constructor
  · rintro refuses ⟨value, converts⟩
    rw [append?_eq converts] at refuses
    cases refuses
  · exact append?_eq_none

theorem appendRow_appended (label : String) (reader : ρ)
    (storages : builders.map (·.storage) = columns.map (·.type.storage)) :
    RowAppended label columns builders reader (appendRow label columns builders reader) := by
  induction columns generalizing builders reader with
  | nil =>
      obtain rfl : builders = [] := by simpa using storages
      exact .pushed .nil .nil
  | cons column columns induction =>
      rcases exists_builder storages with ⟨builder, builders, rfl, storage, storages⟩
      unfold appendRow
      split
      next => exact .unread
      next cell next gives =>
        cases appends : builder.append? cell with
        | none =>
            have refuses : ¬column.Takes cell := by
              rw [Column.Takes, ← storage]
              exact append?_eq_none_iff.mp appends
            have known : (column :: columns)[0]? = some column := rfl
            exact .refused (.cell (.cons gives .nil) known rfl refuses)
        | some pushed =>
            rcases append?_eq_some appends with ⟨value, converts, rfl⟩
            have rest := induction next storages
            rcases told : appendRow label columns builders next with ⟨result, last⟩
            rw [told] at rest
            cases rest with
            | pushed serves pushes => exact .pushed (.cons gives serves) (.cons converts pushes)
            | unread => exact .unread
            | refused refused => exact .refused (refused.behind gives)

theorem appendRow_keeps (label : String) (columns : Metadata) (builders : List ColumnBuilder)
    (keeps : ∀ {reader}, Holds reader → Holds (nextColumn reader).2) (holds : Holds reader) :
    Holds (appendRow label columns builders reader).2 := by
  induction columns generalizing builders reader with
  | nil => cases builders <;> exact holds
  | cons column columns induction =>
      cases builders with
      | nil => exact holds
      | cons builder builders =>
          have later := keeps holds
          unfold appendRow
          split
          next told =>
            rw [told] at later
            exact later
          next told =>
            rw [told] at later
            split
            · exact later
            next builder _ =>
              have rest := induction builders later
              split
              next others =>
                rw [others] at rest
                exact rest
              next others =>
                rw [others] at rest
                exact rest

theorem appendRows_appended
    (column : ∀ {reader}, Holds reader → Holds (nextColumn reader).2)
    (row : ∀ {reader next}, Holds reader → nextRow reader = (.ok true, next) →
      Holds next ∧ Stands next)
    (holds : Holds reader) (built : Built columns done builders) (label : String)
    (fuel count : Nat) :
    RowsAppended Stands label columns done count reader
      (appendRows label columns fuel count builders reader).1 := by
  induction fuel generalizing count builders reader done with
  | zero => exact .nothing built
  | succ fuel induction =>
      unfold appendRows
      split
      next => exact .unread
      next => exact .nothing built
      next next moves =>
        rcases row holds moves with ⟨holds, stands⟩
        have later := appendRow_keeps label columns builders column holds
        have appended := appendRow_appended label next built.storages
        rcases told : appendRow label columns builders next with ⟨result, last⟩
        rw [told] at later appended
        cases appended with
        | pushed serves pushes =>
            have onward := induction later (built.snoc pushes) (count + 1)
            exact onward.behind moves serves (built.width pushes)
        | unread => exact .unread
        | refused refused => exact .refused stands refused

/-- A table that cannot be added has a name that is taken, or a reader at fault, or a cell that its
column refuses. -/
theorem add_error_cases {table : UploadedTable} {store after : Store}
    (column : ∀ {reader}, Holds reader → Holds (nextColumn reader).2)
    (row : ∀ {reader next}, Holds reader → nextRow reader = (.ok true, next) →
      Holds next ∧ Stands next)
    (holds : Holds reader) (adds : store.add table reader = (.error fault, last, after)) :
    (store.table? table.dbName).isSome = true ∧ fault = nameTaken table.label table.dbName ∨
      (∃ refusal, fault = .reading table.label refusal) ∨
        ∃ standing, Stands standing ∧ RowRefused table.label table.columns standing fault := by
  have appended := appendRows_appended column row holds (.empty table.columns) table.label
    (remaining reader + 1) 0
  have added := add_added table reader store
  rw [adds] at added
  cases added with
  | taken there => exact .inl ⟨there, rfl⟩
  | unread told =>
      rw [told] at appended
      cases appended with
      | unread => exact .inr (.inl ⟨_, rfl⟩)
      | refused stands refused => exact .inr (.inr ⟨_, stands, refused⟩)
  | unassembled told fails =>
      -- What is built from rows of the right width can always be assembled.
      rw [told] at appended
      cases appended with
      | built _ built =>
          rcases built.assemble with ⟨stored, assembles, _⟩
          rw [List.nil_append] at assembles
          rw [Nat.zero_add, assembles] at fails
          cases fails

theorem add_error_reasons {table : UploadedTable} {store after : Store}
    (adds : store.add table reader = (.error fault, last, after)) :
    (store.table? table.dbName).isSome = true ∧ fault = nameTaken table.label table.dbName ∨
      (∃ refusal, fault = .reading table.label refusal) ∨
        ∃ standing : ρ, RowRefused table.label table.columns standing fault := by
  let Any (_ : ρ) : Prop := True
  have reasons := @add_error_cases ρ _ Any Any reader last fault table store after
    (fun _ => trivial) (fun _ _ => ⟨trivial, trivial⟩) trivial adds
  rcases reasons with taken | unread | ⟨standing, _, refused⟩
  · exact .inl taken
  · exact .inr (.inl unread)
  · exact .inr (.inr ⟨standing, refused⟩)

end Store

end

end TableIntake

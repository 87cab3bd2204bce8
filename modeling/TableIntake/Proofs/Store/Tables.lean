import TableIntake.Store

/-! # Tables in stores

What a store holds after a table was added to it, and after it was discarded again.
-/

namespace TableIntake

namespace Store

variable {store : Store} {name : String}

theorem not_mem_names (absent : store.table? name = none) : name ∉ store.names := by
  intro member
  rcases List.mem_map.mp member with ⟨entry, there, same⟩
  have different := List.lookup_eq_none_iff.mp absent entry there
  simp [same] at different

theorem insertTable_split {tables : List (String × StoredTable)}
    (absent : name ∉ tables.map Prod.fst) (table : StoredTable) :
    ∃ before after,
      tables = before ++ after ∧
        insertTable name table tables = before ++ (name, table) :: after := by
  induction tables with
  | nil => exact ⟨[], [], rfl, rfl⟩
  | cons entry rest induction =>
      rcases entry with ⟨first, known⟩
      rw [List.map_cons, List.mem_cons, not_or] at absent
      rcases absent with ⟨different, absent⟩
      simp only [insertTable, different, if_false]
      split
      · exact ⟨[], _, rfl, rfl⟩
      · rcases induction absent with ⟨before, after, equal, inserted⟩
        exact ⟨(first, known) :: before, after, by simp [equal], by simp [inserted]⟩

theorem insert_split (absent : store.table? name = none) (table : StoredTable) :
    ∃ before after,
      store.tables = before ++ after ∧
        (store.insert name table).tables = before ++ (name, table) :: after :=
  insertTable_split (not_mem_names absent) table

theorem table?_insert (absent : store.table? name = none) (table : StoredTable)
    (other : String) :
    (store.insert name table).table? other =
      if other = name then some table else store.table? other := by
  rcases insert_split absent table with ⟨before, after, equal, inserted⟩
  simp only [table?, equal, inserted, List.lookup_append] at absent ⊢
  by_cases same : other = name
  · subst same
    have earlier := (Option.or_eq_none_iff.mp absent).1
    simp [earlier]
  · rw [if_neg same, List.lookup_cons, beq_false_of_ne same]

theorem names_insert_perm (absent : store.table? name = none) (table : StoredTable) :
    (store.insert name table).names.Perm (name :: store.names) := by
  rcases insert_split absent table with ⟨before, after, equal, inserted⟩
  simp only [names, equal, inserted, List.map_append, List.map_cons]
  exact List.perm_middle

theorem discard_insert (absent : store.table? name = none) (table : StoredTable) :
    (store.insert name table).discard name = store := by
  -- A table that was not there before leaves no trace when it is discarded.
  have others : ∀ entry ∈ store.tables, entry.1 ≠ name := fun entry member same =>
    not_mem_names absent (same ▸ List.mem_map_of_mem member)
  have kept : store.tables.filter (fun entry => entry.1 ≠ name) = store.tables :=
    List.filter_eq_self.mpr (by simpa using others)
  rcases insert_split absent table with ⟨before, after, equal, inserted⟩
  have dropped : (store.insert name table).tables.filter (fun entry => entry.1 ≠ name) =
      store.tables := by
    rw [equal] at kept ⊢
    simpa [inserted] using kept
  simp only [discard, dropped]

end Store

/-! ## Batches -/

namespace StoredTable

/-- A column for each column of the table in order, with a cell for each of its rows. -/
structure Holds (stored : StoredTable) (table : UploadedTable) : Prop where
  rows : stored.rows = table.rows
  fields :
    stored.columns.map (fun column => (column.name, column.storage, column.annotations)) =
      table.columns.map fun column => (column.name, column.type.storage, column.annotations)
  cells : ∀ column ∈ stored.columns, column.cells.size = table.rows

theorem fillColumn_ok {rows : Nat} {column : Column} {builder : ColumnBuilder}
    {filled : StoredColumn} (fills : fillColumn rows column builder = .ok filled) :
    (filled.name, filled.storage, filled.annotations) =
        (column.name, column.type.storage, column.annotations) ∧
      filled.cells.size = rows := by
  unfold fillColumn at fills
  split at fills
  · contradiction
  next storage =>
    split at fills
    · contradiction
    next size =>
      cases fills
      simp_all

theorem fillColumns_ok {rows : Nat} {columns : Metadata} {builders : List ColumnBuilder}
    {filled : List StoredColumn} (fills : fillColumns rows columns builders = .ok filled) :
    filled.map (fun column => (column.name, column.storage, column.annotations)) =
        columns.map (fun column => (column.name, column.type.storage, column.annotations)) ∧
      ∀ column ∈ filled, column.cells.size = rows := by
  induction columns generalizing builders filled with
  | nil =>
      cases builders with
      | nil =>
          cases fills
          simp
      | cons => contradiction
  | cons column columns induction =>
      cases builders with
      | nil => contradiction
      | cons builder builders =>
          rw [fillColumns] at fills
          cases first : fillColumn rows column builder with
          | error =>
              rw [first] at fills
              contradiction
          | ok head =>
              cases others : fillColumns rows columns builders with
              | error =>
                  rw [first, others] at fills
                  contradiction
              | ok tail =>
                  rw [first, others] at fills
                  cases fills
                  rcases fillColumn_ok first with ⟨field, size⟩
                  rcases induction others with ⟨fields, sizes⟩
                  exact ⟨by simp [field, fields], by simpa [size] using sizes⟩

theorem assemble_holds {table : UploadedTable} {builders : List ColumnBuilder} {rows : Nat}
    {stored : StoredTable} (assembles : assemble table.columns builders rows = .ok stored) :
    stored.Holds { table with rows := rows } := by
  unfold assemble at assembles
  cases fills : fillColumns rows table.columns builders with
  | error =>
      rw [fills] at assembles
      contradiction
  | ok filled =>
      rw [fills] at assembles
      cases assembles
      rcases fillColumns_ok fills with ⟨fields, cells⟩
      exact ⟨rfl, fields, cells⟩

end StoredTable

namespace Store

variable {ρ : Type} [TableReader ρ] {table : UploadedTable} {reader next : ρ}
  {store after : Store}

/-- All that adding a table can come to. It is read to its end and assembled before it is there. -/
inductive Added (table : UploadedTable) (reader : ρ) (store : Store) :
    Except UploadFault Nat × ρ × Store → Prop
  | taken :
      (store.table? table.dbName).isSome = true →
      Added table reader store (.error (nameTaken table.label table.dbName), reader, store)
  | unread {fault : UploadFault} {last : ρ} :
      appendRows table.label table.columns (TableReader.remaining reader + 1) 0
        (table.columns.map .forColumn) reader = (.error fault, last) →
      Added table reader store (.error fault, last, store)
  | unassembled {builders : List ColumnBuilder} {count : Nat} {fault : ArrowFault} {last : ρ} :
      appendRows table.label table.columns (TableReader.remaining reader + 1) 0
        (table.columns.map .forColumn) reader = (.ok (builders, count), last) →
      StoredTable.assemble table.columns builders count = .error fault →
      Added table reader store (.error (.arrow fault), last, store)
  | stored {builders : List ColumnBuilder} {count : Nat} {stored : StoredTable} {last : ρ} :
      store.table? table.dbName = none →
      appendRows table.label table.columns (TableReader.remaining reader + 1) 0
        (table.columns.map .forColumn) reader = (.ok (builders, count), last) →
      StoredTable.assemble table.columns builders count = .ok stored →
      Added table reader store (.ok count, last, store.insert table.dbName stored)

theorem add_added (table : UploadedTable) (reader : ρ) (store : Store) :
    Added table reader store (store.add table reader) := by
  rw [add]
  split
  next taken => exact .taken taken
  next absent =>
    have absent : store.table? table.dbName = none := by simpa using absent
    simp only
    split
    next appends => exact .unread appends
    next appends =>
      split
      next assembles => exact .unassembled appends assembles
      next assembles => exact .stored absent appends assembles

theorem add_error {fault : UploadFault}
    (adds : store.add table reader = (.error fault, next, after)) : after = store := by
  have added := add_added table reader store
  rw [adds] at added
  cases added with
  | taken | unread | unassembled => rfl

theorem add_ok {rows : Nat} (adds : store.add table reader = (.ok rows, next, after)) :
    store.table? table.dbName = none ∧
      ∃ stored, StoredTable.Holds stored { table with rows := rows } ∧
        after = store.insert table.dbName stored := by
  have added := add_added table reader store
  rw [adds] at added
  cases added with
  | stored absent _ assembles =>
      exact ⟨absent, _, StoredTable.assemble_holds assembles, rfl⟩

end Store

end TableIntake

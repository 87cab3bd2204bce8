import TableIntake.Proofs.Reader.Serving
import TableIntake.Proofs.Store.Tables

/-! # Filling tables

A store takes the rows that a reader serves one by one, and has their cells column by column. The
first cell that its column cannot store ends the reading.
-/

namespace TableIntake

open TableReader

/-! ## The first misfit -/

section First

variable {α : Type} {items before after before' after' : List α} {item item' : α}

theorem exists_first_not {fits : α → Prop} (misfit : ¬∀ item ∈ items, fits item) :
    ∃ before item after, items = before ++ item :: after ∧
      (∀ other ∈ before, fits other) ∧ ¬fits item := by
  induction items with
  | nil => exact absurd nofun misfit
  | cons first rest induction =>
      by_cases fit : fits first
      · have later : ¬∀ item ∈ rest, fits item := by
          intro all
          apply misfit
          intro item member
          rcases List.mem_cons.mp member with rfl | member
          · exact fit
          · exact all item member
        rcases induction later with ⟨before, item, after, rfl, fine, ends⟩
        refine ⟨first :: before, item, after, rfl, ?_, ends⟩
        intro other member
        rcases List.mem_cons.mp member with rfl | member
        · exact fit
        · exact fine other member
      · exact ⟨[], first, rest, rfl, nofun, fit⟩

theorem first_unique (holds : List α → Prop)
    (initial : ∀ left right, holds (left ++ right) → holds left)
    (split : before ++ item :: after = before' ++ item' :: after')
    (upTo : holds before) (ends : ¬holds (before ++ [item]))
    (upTo' : holds before') (ends' : ¬holds (before' ++ [item'])) :
    before = before' ∧ item = item' := by
  rcases List.append_eq_append_iff.mp split with ⟨middle, rfl, tail⟩ | ⟨middle, rfl, tail⟩
  · cases middle with
    | nil => exact ⟨(List.append_nil _).symm, (List.cons.inj tail).1⟩
    | cons first middle =>
        obtain rfl : item = first := (List.cons.inj tail).1
        rw [List.append_cons] at upTo'
        exact absurd (initial _ _ upTo') ends
  · cases middle with
    | nil => exact ⟨List.append_nil _, (List.cons.inj tail).1.symm⟩
    | cons first middle =>
        obtain rfl : item' = first := (List.cons.inj tail).1
        rw [List.append_cons] at upTo
        exact absurd (initial _ _ upTo) ends'

theorem first_misfit_unique (fits : α → Prop)
    (split : before ++ item :: after = before' ++ item' :: after')
    (fine : ∀ other ∈ before, fits other) (misfit : ¬fits item)
    (fine' : ∀ other ∈ before', fits other) (misfit' : ¬fits item') :
    before = before' ∧ item = item' := by
  have initial (left right : List α) (all : ∀ other ∈ left ++ right, fits other) :
      ∀ other ∈ left, fits other :=
    fun other member => all other (List.mem_append_left right member)
  have ends {left : List α} {last : α} (misfit : ¬fits last) :
      ¬∀ other ∈ left ++ [last], fits other := fun all => misfit (all last (by simp))
  exact first_unique (fun items => ∀ item ∈ items, fits item) initial split fine (ends misfit) fine'
    (ends misfit')

end First

/-! ## Conversions -/

/-- How a cell is stored in a column. Null stays null, and whole numbers are stored exactly or
not at all. Binary columns have the bytes of a value, text columns the text that it shows. -/
inductive Conversion : Storage → Cell → StoredCell → Prop
  | null {storage : Storage} : Conversion storage .null .null
  | int16 {cell : Cell} {value : Int16} :
      cell.asInt? = some value.toInt → Conversion .int16 cell (.int16 value)
  | int32 {cell : Cell} {value : Int32} :
      cell.asInt? = some value.toInt → Conversion .int32 cell (.int32 value)
  | int64 {cell : Cell} {value : Int64} :
      cell.asInt? = some value.toInt → Conversion .int64 cell (.int64 value)
  | float32 {cell : Cell} {bits : UInt64} :
      cell.asDouble? = some bits → Conversion .float32 cell (.float32 (Numeral.singleOfDouble bits))
  | float64 {cell : Cell} {bits : UInt64} :
      cell.asDouble? = some bits → Conversion .float64 cell (.float64 bits)
  | bytes {value : List UInt8} : Conversion .binary (.bytes value) (.binary value)
  | text {value : String} : Conversion .binary (.text value) (.binary (Cell.utf8 value))
  | number {cell : Cell} {bytes : List UInt8} :
      cell.bigEndian? = some bytes → Conversion .binary cell (.binary bytes)
  | shown {cell : Cell} : cell.isNull = false → Conversion .utf8 cell (.utf8 cell.shown)

theorem exact_eq_some_iff {α : Type} {ofInt : Int → α} {toInt : α → Int}
    (back : ∀ small, ofInt (toInt small) = small) (wrap : α → StoredCell) {whole? : Option Int}
    {value : StoredCell} :
    (whole?.bind fun whole =>
        if toInt (ofInt whole) = whole then some (ofInt whole) else none).map wrap = some value ↔
      ∃ small, whole? = some (toInt small) ∧ wrap small = value := by
  constructor
  · intro small?
    rcases Option.map_eq_some_iff.mp small? with ⟨small, fits, same⟩
    rcases Option.bind_eq_some_iff.mp fits with ⟨whole, known, equal⟩
    split at equal
    next within =>
      cases equal
      exact ⟨_, known.trans (congrArg some within.symm), same⟩
    next => cases equal
  · rintro ⟨small, known, rfl⟩
    simp [known, back]

namespace Storage

variable {storage : Storage} {cell : Cell} {value : StoredCell}

theorem convert?_eq_some_iff (present : cell.isNull = false) :
    storage.convert? cell = some value ↔ Conversion storage cell value := by
  constructor
  · intro converts
    cases storage with
    | int16 =>
        rcases (exact_eq_some_iff Int16.ofInt_toInt _).mp converts with ⟨small, whole, rfl⟩
        exact .int16 whole
    | int32 =>
        rcases (exact_eq_some_iff Int32.ofInt_toInt _).mp converts with ⟨small, whole, rfl⟩
        exact .int32 whole
    | int64 =>
        rcases (exact_eq_some_iff Int64.ofInt_toInt _).mp converts with ⟨small, whole, rfl⟩
        exact .int64 whole
    | float32 =>
        rcases Option.map_eq_some_iff.mp converts with ⟨bits, double, rfl⟩
        exact .float32 double
    | float64 =>
        rcases Option.map_eq_some_iff.mp converts with ⟨bits, double, rfl⟩
        exact .float64 double
    | binary =>
        rcases Option.map_eq_some_iff.mp converts with ⟨bytes, known, rfl⟩
        exact .number known
    | utf8 =>
        cases converts
        exact .shown present
  · intro conversion
    cases conversion with
    | null => cases present
    | int16 whole => exact (exact_eq_some_iff Int16.ofInt_toInt _).mpr ⟨_, whole, rfl⟩
    | int32 whole => exact (exact_eq_some_iff Int32.ofInt_toInt _).mpr ⟨_, whole, rfl⟩
    | int64 whole => exact (exact_eq_some_iff Int64.ofInt_toInt _).mpr ⟨_, whole, rfl⟩
    | float32 double | float64 double => simp [convert?, double]
    | bytes | text | shown => rfl
    | number known => simp [convert?, known]

theorem store?_eq_some_iff : storage.store? cell = some value ↔ Conversion storage cell value := by
  unfold store?
  cases null : cell.isNull with
  | false =>
      rw [if_neg Bool.false_ne_true]
      exact convert?_eq_some_iff null
  | true =>
      obtain rfl : cell = .null := by
        cases cell <;> first | rfl | cases null
      constructor
      · intro stores
        cases stores
        exact .null
      · intro conversion
        cases conversion with
        | null => rfl
        | shown present => cases present
        | int16 whole | int32 whole | int64 whole => cases whole
        | float32 double | float64 double => cases double
        | number known => cases known

end Storage

theorem Conversion.unique {storage : Storage} {cell : Cell} {value other : StoredCell}
    (converts : Conversion storage cell value) (again : Conversion storage cell other) :
    value = other := by
  rw [← Storage.store?_eq_some_iff] at converts again
  exact Option.some.inj (converts.symm.trans again)

/-! ## Rows and columns -/

def Column.Takes (column : Column) (cell : Cell) : Prop :=
  ∃ value, Conversion column.type.storage cell value

def Row.Storable (columns : Metadata) (row : Row) : Prop :=
  ∀ entry ∈ columns.zip row, entry.1.Takes entry.2

/-- The leftmost cell of a row that has no place in its column. -/
def Row.RefusedAt (columns : Metadata) (row : Row) (column : Column) (cell : Cell) : Prop :=
  ∃ left right, columns.zip row = left ++ (column, cell) :: right ∧
    (∀ entry ∈ left, entry.1.Takes entry.2) ∧ ¬column.Takes cell

namespace Row

variable {columns : Metadata} {row : Row} {column other : Column} {cell another : Cell}

theorem exists_refused (misfit : ¬row.Storable columns) :
    ∃ column cell, row.RefusedAt columns column cell := by
  rcases exists_first_not misfit with ⟨left, ⟨column, cell⟩, right, refused⟩
  exact ⟨column, cell, left, right, refused⟩

theorem RefusedAt.not_storable (refused : row.RefusedAt columns column cell) :
    ¬row.Storable columns := by
  rcases refused with ⟨left, right, split, _, refuses⟩
  intro storable
  exact refuses (storable (column, cell) (by simp [split]))

theorem RefusedAt.unique (refused : row.RefusedAt columns column cell)
    (again : row.RefusedAt columns other another) : column = other ∧ cell = another := by
  rcases refused with ⟨left, right, split, fine, refuses⟩
  rcases again with ⟨left', right', split', fine', refuses'⟩
  have same := first_misfit_unique (fun entry : Column × Cell => entry.1.Takes entry.2)
    (split.symm.trans split') fine refuses fine' refuses'
  exact Prod.mk.inj same.2

end Row

structure Storage.Lists (storage : Storage) (rows : List Row) (index : Nat)
    (cells : Array StoredCell) : Prop where
  size : cells.size = rows.length
  cells : ∀ (position : Nat) (row : Row), rows[position]? = some row →
    ∃ cell value, row[index]? = some cell ∧ cells[position]? = some value ∧
      Conversion storage cell value

/-- A table of just these columns and rows. -/
structure StoredTable.Records (stored : StoredTable) (columns : Metadata) (rows : List Row) :
    Prop where
  count : stored.rows = rows.length
  fields :
    stored.columns.map (fun column => (column.name, column.storage, column.annotations)) =
      columns.map fun column => (column.name, column.type.storage, column.annotations)
  columns : ∀ (index : Nat) column, stored.columns[index]? = some column →
    column.storage.Lists rows index column.cells

theorem Storage.Lists.unique {storage : Storage} {rows : List Row} {index : Nat}
    {cells others : Array StoredCell} (lists : storage.Lists rows index cells)
    (again : storage.Lists rows index others) : cells = others := by
  apply Array.ext (lists.size.trans again.size.symm)
  intro position within within'
  have bound : position < rows.length := lists.size ▸ within
  have there := List.getElem?_eq_getElem bound
  rcases lists.cells position _ there with ⟨cell, value, here, known, converts⟩
  rcases again.cells position _ there with ⟨cell', value', here', known', converts'⟩
  obtain rfl : cell = cell' := Option.some.inj (here.symm.trans here')
  rw [Array.getElem?_eq_getElem within] at known
  rw [Array.getElem?_eq_getElem within'] at known'
  rw [Option.some.inj known, Option.some.inj known']
  exact converts.unique converts'

theorem StoredTable.Records.unique {stored other : StoredTable} {columns : Metadata}
    {rows : List Row} (records : stored.Records columns rows) (again : other.Records columns rows) :
    stored = other := by
  have fields := records.fields.trans again.fields.symm
  have columns : stored.columns = other.columns := by
    apply List.ext_getElem?
    intro index
    have field := congrArg (fun fields => fields[index]?) fields
    simp only [List.getElem?_map] at field
    cases left : stored.columns[index]? with
    | none =>
        rw [left] at field
        simpa using field.symm
    | some column =>
        cases right : other.columns[index]? with
        | none => simp [left, right] at field
        | some column' =>
            have lists := records.columns index column left
            have lists' := again.columns index column' right
            simp only [left, right, Option.map_some, Option.some.injEq, Prod.mk.injEq] at field
            rcases field with ⟨name, storage, annotations⟩
            rw [← storage] at lists'
            have cells := lists.unique lists'
            cases column
            cases column'
            cases name
            cases storage
            cases annotations
            cases cells
            rfl
  have count := records.count.trans again.count.symm
  cases stored
  cases other
  exact congr (congrArg StoredTable.mk columns) count

theorem Storage.Lists.snoc {storage : Storage} {rows : List Row} {index : Nat}
    {cells : Array StoredCell} (lists : storage.Lists rows index cells) {row : Row} {cell : Cell}
    {value : StoredCell} (here : row[index]? = some cell)
    (converts : Conversion storage cell value) :
    storage.Lists (rows ++ [row]) index (cells.push value) where
  size := by rw [Array.size_push, List.length_append, lists.size, List.length_singleton]
  cells := by
    intro position other member
    rw [Array.getElem?_push, lists.size]
    rcases Nat.lt_or_ge position rows.length with earlier | last
    · rw [List.getElem?_append_left earlier] at member
      rw [if_neg (Nat.ne_of_lt earlier)]
      exact lists.cells position other member
    · rw [List.getElem?_append_right last, List.getElem?_singleton] at member
      split at member
      next first =>
        obtain rfl : position = rows.length := by omega
        cases member
        exact ⟨cell, value, here, if_pos rfl, converts⟩
      next => cases member

/-! ## Builders -/

theorem exists_builder {column : Column} {columns : Metadata} {builders : List ColumnBuilder}
    (storages : builders.map (·.storage) = (column :: columns).map (·.type.storage)) :
    ∃ builder others, builders = builder :: others ∧ builder.storage = column.type.storage ∧
      others.map (·.storage) = columns.map (·.type.storage) :=
  List.map_eq_cons_iff.mp storages

inductive Pushes : Row → List ColumnBuilder → List ColumnBuilder → Prop
  | nil : Pushes [] [] []
  | cons {cell : Cell} {row : Row} {builder : ColumnBuilder} {builders after : List ColumnBuilder}
      {value : StoredCell} :
      Conversion builder.storage cell value →
      Pushes row builders after →
      Pushes (cell :: row) (builder :: builders)
        ({ builder with cells := builder.cells.push value } :: after)

/-- Builders for these columns that hold these rows. -/
structure Built (columns : Metadata) (rows : List Row) (builders : List ColumnBuilder) : Prop where
  storages : builders.map (·.storage) = columns.map (·.type.storage)
  lists : ∀ (index : Nat) builder, builders[index]? = some builder →
    builder.storage.Lists rows index builder.cells

namespace Pushes

variable {row : Row} {builders after : List ColumnBuilder}

theorem storages (pushes : Pushes row builders after) :
    after.map (·.storage) = builders.map (·.storage) := by
  induction pushes with
  | nil => rfl
  | cons converts rest induction => rw [List.map_cons, List.map_cons, induction]

theorem getElem? (pushes : Pushes row builders after) {index : Nat} {pushed : ColumnBuilder}
    (there : after[index]? = some pushed) :
    ∃ builder cell value, builders[index]? = some builder ∧ row[index]? = some cell ∧
      Conversion builder.storage cell value ∧
      pushed = { builder with cells := builder.cells.push value } := by
  induction pushes generalizing index with
  | nil => cases there
  | cons converts rest induction =>
      cases index with
      | zero =>
          cases there
          exact ⟨_, _, _, rfl, rfl, converts, rfl⟩
      | succ index => exact induction there

theorem length (pushes : Pushes row builders after) : row.length = builders.length := by
  induction pushes with
  | nil => rfl
  | cons converts rest induction => rw [List.length_cons, List.length_cons, induction]

end Pushes

namespace Built

variable {columns : Metadata} {rows : List Row} {builders after : List ColumnBuilder}

theorem empty (columns : Metadata) : Built columns [] (columns.map .forColumn) where
  storages := by
    rw [List.map_map]
    rfl
  lists := by
    intro index builder there
    rw [List.getElem?_map] at there
    rcases Option.map_eq_some_iff.mp there with ⟨column, _, rfl⟩
    exact ⟨rfl, nofun⟩

theorem snoc (built : Built columns rows builders) {row : Row}
    (pushes : Pushes row builders after) : Built columns (rows ++ [row]) after where
  storages := pushes.storages.trans built.storages
  lists := by
    intro index pushed there
    rcases pushes.getElem? there with ⟨builder, cell, value, earlier, here, converts, rfl⟩
    exact (built.lists index builder earlier).snoc here converts

theorem width (built : Built columns rows builders) {row : Row}
    (pushes : Pushes row builders after) : row.length = columns.length := by
  have same := congrArg List.length built.storages
  rw [List.length_map, List.length_map] at same
  exact pushes.length.trans same

theorem fillColumns_eq {count : Nat}
    (storages : builders.map (·.storage) = columns.map (·.type.storage))
    (sizes : ∀ builder ∈ builders, builder.cells.size = count) :
    StoredTable.fillColumns count columns builders =
      .ok (List.zipWith
        (fun column builder =>
          ⟨column.name, builder.storage, column.annotations, builder.cells⟩) columns builders) := by
  induction columns generalizing builders with
  | nil =>
      obtain rfl : builders = [] := by simpa using storages
      rfl
  | cons column columns induction =>
      rcases exists_builder storages with ⟨builder, builders, rfl, storage, storages⟩
      have others := induction storages fun other member => sizes other (.tail builder member)
      have size := sizes builder (.head builders)
      have first : StoredTable.fillColumn count column builder =
          .ok ⟨column.name, builder.storage, column.annotations, builder.cells⟩ := by
        simp [StoredTable.fillColumn, storage, size]
      rw [StoredTable.fillColumns, first, others]
      rfl

theorem assemble_of_fillColumns {count : Nat} {filled : List StoredColumn}
    (fills : StoredTable.fillColumns count columns builders = .ok filled) :
    StoredTable.assemble columns builders count = .ok ⟨filled, count⟩ := by
  rw [StoredTable.assemble, fills]
  rfl

theorem assemble (built : Built columns rows builders) :
    ∃ stored, StoredTable.assemble columns builders rows.length = .ok stored ∧
      stored.Records columns rows := by
  have sizes : ∀ builder ∈ builders, builder.cells.size = rows.length := by
    intro builder member
    rcases List.mem_iff_getElem?.mp member with ⟨index, there⟩
    exact (built.lists index builder there).size
  have fills := fillColumns_eq built.storages sizes
  refine ⟨_, assemble_of_fillColumns fills, rfl, ?_, ?_⟩
  · exact (StoredTable.fillColumns_ok fills).1
  · intro index filled there
    rcases List.getElem?_zipWith_eq_some.mp there with ⟨column, builder, _, known, rfl⟩
    exact built.lists index builder known

end Built

/-! ## Reading into a store -/

namespace Store

variable {ρ : Type} [TableReader ρ] {reader last : ρ} {label : String} {columns : Metadata}
  {row : Row} {rows done : List Row} {builders : List ColumnBuilder} {fault : Option ReadFault}

theorem append?_eq {builder : ColumnBuilder} {cell : Cell} {value : StoredCell}
    (converts : Conversion builder.storage cell value) :
    builder.append? cell = some { builder with cells := builder.cells.push value } := by
  rw [ColumnBuilder.append?, Storage.store?_eq_some_iff.mpr converts]
  rfl

theorem append?_eq_none {builder : ColumnBuilder} {cell : Cell}
    (refuses : ¬∃ value, Conversion builder.storage cell value) : builder.append? cell = none := by
  rw [ColumnBuilder.append?, Option.map_eq_none_iff, Option.eq_none_iff_forall_not_mem]
  intro value stores
  exact refuses ⟨value, Storage.store?_eq_some_iff.mp stores⟩

theorem appendRow_storable (label : String) (serves : ServesRow reader row last)
    (storages : builders.map (·.storage) = columns.map (·.type.storage))
    (width : row.length = columns.length) (storable : row.Storable columns) :
    ∃ after, appendRow label columns builders reader = (.ok after, last) ∧
      Pushes row builders after := by
  induction serves generalizing columns builders with
  | nil =>
      obtain rfl : columns = [] := List.eq_nil_of_length_eq_zero width.symm
      obtain rfl : builders = [] := by simpa using storages
      exact ⟨[], rfl, .nil⟩
  | cons gives rest induction =>
      cases columns with
      | nil => cases width
      | cons column columns =>
          rcases exists_builder storages with ⟨builder, builders, rfl, storage, storages⟩
          rcases storable (column, _) (.head _) with ⟨value, converts⟩
          rw [← storage] at converts
          rcases induction storages (Nat.succ.inj width) fun entry member =>
            storable entry (.tail _ member) with ⟨after, appends, pushes⟩
          refine ⟨_, ?_, .cons converts pushes⟩
          simp only [appendRow, gives, append?_eq converts, appends]

theorem appendRow_refused (label : String) (serves : ServesRow reader row last)
    (storages : builders.map (·.storage) = columns.map (·.type.storage)) {column : Column}
    {cell : Cell} (refused : row.RefusedAt columns column cell) :
    (appendRow label columns builders reader).1 = .error (refusedCell label column cell) := by
  rcases refused with ⟨left, right, split, fine, refuses⟩
  induction serves generalizing columns builders left with
  | nil => simp at split
  | @cons reader next last first row gives rest induction =>
      cases columns with
      | nil => simp at split
      | cons head columns =>
          rcases exists_builder storages with ⟨builder, builders, rfl, storage, storages⟩
          rw [List.zip_cons_cons] at split
          cases left with
          | nil =>
              obtain ⟨same, -⟩ := List.cons.inj split
              cases same
              rw [Column.Takes, ← storage] at refuses
              simp only [appendRow, gives, append?_eq_none refuses]
          | cons entry left =>
              -- A cell to the left of the refused one is stored, in a builder that is given up.
              rcases List.cons.inj split with ⟨rfl, others⟩
              rcases fine (head, first) (.head left) with ⟨value, converts⟩
              rw [← storage] at converts
              have later := induction storages left others fun entry member =>
                fine entry (.tail _ member)
              simp only [appendRow, gives, append?_eq converts]
              rcases appends : appendRow label columns builders next with ⟨result, reader⟩
              rw [appends] at later
              cases result with
              | error => exact later
              | ok => cases later

theorem appendRows_storable (label : String) {before rest : List Row}
    (serves : Serves reader (before ++ rest) fault last) (built : Built columns done builders)
    (widths : ∀ row ∈ before, row.length = columns.length)
    (storable : ∀ row ∈ before, row.Storable columns)
    (fuel count : Nat) :
    ∃ next after,
      appendRows label columns (before.length + fuel) count builders reader =
        appendRows label columns fuel (count + before.length) after next ∧
      Built columns (done ++ before) after ∧ Serves next rest fault last := by
  induction before generalizing reader done builders count with
  | nil =>
      refine ⟨reader, builders, ?_, ?_, serves⟩
      · simp
      · simpa using built
  | cons row before induction =>
      cases serves with
      | row gives size cells later =>
          rcases appendRow_storable label cells built.storages (widths row (.head before))
            (storable row (.head before)) with ⟨pushed, appends, pushes⟩
          rcases induction later (built.snoc pushes)
            (fun other member => widths other (.tail row member))
            (fun other member => storable other (.tail row member)) (count + 1) with
            ⟨next, after, onward, built, serves⟩
          refine ⟨next, after, ?_, ?_, serves⟩
          · rw [List.length_cons, Nat.add_right_comm]
            simp only [appendRows, gives, appends]
            rw [onward, Nat.add_assoc, Nat.add_comm 1]
          · rwa [List.append_assoc] at built

variable {table : UploadedTable} {store : Store}

theorem add_storable {before rest : List Row} (serves : Serves reader (before ++ rest) fault last)
    (absent : store.table? table.dbName = none) (enough : before.length ≤ remaining reader)
    (widths : ∀ row ∈ before, row.length = table.columns.length)
    (storable : ∀ row ∈ before, row.Storable table.columns) :
    ∃ fuel next builders,
      Serves next rest fault last ∧ Built table.columns before builders ∧
        ∀ result final,
          appendRows table.label table.columns (fuel + 1) before.length builders next =
            (result, final) →
          store.add table reader =
            match result with
            | .error fault => (.error fault, final, store)
            | .ok (builders, count) =>
                match StoredTable.assemble table.columns builders count with
                | .error fault => (.error (.arrow fault), final, store)
                | .ok stored => (.ok count, final, store.insert table.dbName stored) := by
  have fuel : remaining reader + 1 = before.length + (remaining reader - before.length + 1) := by
    omega
  rcases appendRows_storable table.label serves (.empty table.columns) widths storable
    (remaining reader - before.length + 1) 0 with ⟨next, builders, reads, built, serves⟩
  refine ⟨remaining reader - before.length, next, builders, serves, built, ?_⟩
  intro result final appends
  rw [← fuel, Nat.zero_add, appends] at reads
  unfold add
  rw [absent]
  simp only [Option.isSome_none, Bool.false_eq_true, if_false, reads]
  cases result <;> rfl

theorem add_ended (serves : Serves reader rows none last)
    (absent : store.table? table.dbName = none) (enough : rows.length ≤ remaining reader)
    (widths : ∀ row ∈ rows, row.length = table.columns.length)
    (storable : ∀ row ∈ rows, row.Storable table.columns) :
    ∃ stored, store.add table reader =
        (.ok rows.length, last, store.insert table.dbName stored) ∧
      stored.Records table.columns rows := by
  rw [← List.append_nil rows] at serves
  rcases add_storable serves absent enough widths storable with
    ⟨fuel, next, builders, serves, built, adds⟩
  rcases built.assemble with ⟨stored, assembles, records⟩
  cases serves with
  | ended ends =>
      refine ⟨stored, ?_, records⟩
      rw [adds (.ok (builders, rows.length)) last (by rw [appendRows, ends])]
      simp only [assembles]

theorem add_failed {fault : ReadFault} (serves : Serves reader rows (some fault) last)
    (absent : store.table? table.dbName = none) (enough : rows.length ≤ remaining reader)
    (widths : ∀ row ∈ rows, row.length = table.columns.length)
    (storable : ∀ row ∈ rows, row.Storable table.columns) :
    store.add table reader = (.error (.reading table.label fault), last, store) := by
  rw [← List.append_nil rows] at serves
  rcases add_storable serves absent enough widths storable with
    ⟨fuel, next, builders, serves, built, adds⟩
  cases serves with
  | failed fails => exact adds _ last (by rw [appendRows, fails])

theorem add_refused {beyond : List Row} {column : Column} {cell : Cell}
    (serves : Serves reader (rows ++ row :: beyond) fault last)
    (absent : store.table? table.dbName = none) (enough : rows.length ≤ remaining reader)
    (widths : ∀ row ∈ rows, row.length = table.columns.length)
    (storable : ∀ row ∈ rows, row.Storable table.columns)
    (refused : row.RefusedAt table.columns column cell) :
    ∃ final, store.add table reader =
      (.error (refusedCell table.label column cell), final, store) := by
  rcases add_storable serves absent enough widths storable with
    ⟨fuel, next, builders, serves, built, adds⟩
  cases serves with
  | @row _ standing _ _ _ _ _ gives size cells rest =>
      have refusal := appendRow_refused table.label cells built.storages refused
      rcases appends : appendRow table.label table.columns builders standing with ⟨result, final⟩
      rw [appends] at refusal
      obtain rfl : result = .error (refusedCell table.label column cell) := refusal
      refine ⟨final, adds (.error _) final ?_⟩
      simp only [appendRows, gives, appends]

/-- Rows are stored up to the first one that cannot be, or else to their end. -/
theorem add_cases (serves : Serves reader rows fault last)
    (absent : store.table? table.dbName = none) (enough : rows.length ≤ remaining reader)
    (widths : ∀ row ∈ rows, row.length = table.columns.length) :
    (∃ before row after column cell final,
        rows = before ++ row :: after ∧ (∀ row ∈ before, row.Storable table.columns) ∧
          row.RefusedAt table.columns column cell ∧
          store.add table reader = (.error (refusedCell table.label column cell), final, store)) ∨
      (∀ row ∈ rows, row.Storable table.columns) ∧
        match fault with
        | some fault => store.add table reader = (.error (.reading table.label fault), last, store)
        | none => ∃ stored, store.add table reader =
            (.ok rows.length, last, store.insert table.dbName stored) ∧
              stored.Records table.columns rows := by
  by_cases storable : ∀ row ∈ rows, row.Storable table.columns
  · refine .inr ⟨storable, ?_⟩
    cases fault with
    | none => exact add_ended serves absent enough widths storable
    | some fault => exact add_failed serves absent enough widths storable
  · rcases exists_first_not storable with ⟨before, row, after, rfl, fine, misfit⟩
    rcases Row.exists_refused misfit with ⟨column, cell, refused⟩
    have fewer : before.length ≤ remaining reader := by
      rw [List.length_append] at enough
      omega
    rcases add_refused serves absent fewer (fun row member => widths row (by simp [member])) fine
      refused with ⟨final, adds⟩
    exact .inl ⟨before, row, after, column, cell, final, rfl, fine, refused, adds⟩

end Store

end TableIntake

import TableIntake.Proofs.Store.Tables
import TableIntake.Upload.Loader

/-! # Registration

Whatever becomes of the uploads, the store holds just the tables that its loader has
registered. A failed upload leaves no trace, and is the last of its call.
-/

namespace TableIntake

/-! ## Stores of registered tables -/

/-- One batch for each of the tables under its own name, and no other. -/
structure Store.Registers (store : Store) (tables : List UploadedTable) : Prop where
  distinct : (tables.map (·.dbName)).Nodup
  names : store.names.Perm (tables.map (·.dbName))
  batches : ∀ table ∈ tables, ∃ stored,
    store.table? table.dbName = some stored ∧ stored.Holds table

namespace Store.Registers

theorem empty : Store.Registers {} [] where
  distinct := .nil
  names := .refl _
  batches := nofun

variable {store : Store} {tables : List UploadedTable}

theorem not_mem (registers : store.Registers tables) {name : String}
    (absent : store.table? name = none) : name ∉ tables.map (·.dbName) := fun member =>
  not_mem_names absent (registers.names.mem_iff.mpr member)

theorem insert (registers : store.Registers tables) {table : UploadedTable}
    {stored : StoredTable} (absent : store.table? table.dbName = none)
    (holds : stored.Holds table) :
    (store.insert table.dbName stored).Registers (tables ++ [table]) where
  distinct := by
    rw [List.map_append, List.map_singleton]
    exact (List.perm_append_singleton _ _).nodup_iff.mpr
      (List.nodup_cons.mpr ⟨registers.not_mem absent, registers.distinct⟩)
  names := by
    rw [List.map_append, List.map_singleton]
    exact (names_insert_perm absent stored).trans
      ((registers.names.cons _).trans (List.perm_append_singleton _ _).symm)
  batches := by
    intro other member
    rw [table?_insert absent]
    rcases List.mem_append.mp member with earlier | last
    · have different : other.dbName ≠ table.dbName := fun same =>
        registers.not_mem absent (same ▸ List.mem_map_of_mem earlier)
      rw [if_neg different]
      exact registers.batches other earlier
    · rcases List.mem_singleton.mp last with rfl
      exact ⟨stored, if_pos rfl, holds⟩

end Store.Registers

namespace Loader

/-! ## One upload -/

@[simp] theorem note_store (notice : Notice) (loader : Loader) :
    (loader.note notice).store = loader.store :=
  rfl

@[simp] theorem note_catalogue (notice : Notice) (loader : Loader) :
    (loader.note notice).catalogue = loader.catalogue :=
  rfl

@[simp] theorem noteEnd_store (reader : LimitedReader StreamReader) (loader : Loader) :
    (loader.noteEnd reader).store = loader.store := by
  unfold noteEnd
  split <;> split <;> rfl

@[simp] theorem noteEnd_catalogue (reader : LimitedReader StreamReader) (loader : Loader) :
    (loader.noteEnd reader).catalogue = loader.catalogue := by
  unfold noteEnd
  split <;> split <;> rfl

/-- A failure leaves the store and the catalogue as they were. -/
structure Unchanged (before after : Loader) : Prop where
  catalogue : after.catalogue = before.catalogue
  store : after.store = before.store

structure Stores (before : Loader) (table : UploadedTable) (after : Loader) : Prop where
  catalogue : after.catalogue = before.catalogue
  absent : before.store.table? table.dbName = none
  batch : ∃ stored, stored.Holds table ∧
    after.store = before.store.insert table.dbName stored

variable {loader after : Loader} {reader : LimitedReader StreamReader}
  {table loaded : UploadedTable} {fault : UploadFault} {arrival : Arrival}

/-- All that loading the rows of a table can come to. A table that is cut short is taken out of the
store again. -/
inductive Read (table : UploadedTable) (reader : LimitedReader StreamReader) (before : Loader) :
    Except UploadFault UploadedTable × Loader → Prop
  | refused {fault : UploadFault} {last : LimitedReader StreamReader} {after : Loader} :
      before.store.add table reader = (.error fault, last, before.store) →
      before.Unchanged after → Read table reader before (.error fault, after)
  | interrupted {rows : Nat} {last : LimitedReader StreamReader} {store : Store} {after : Loader} :
      before.store.add table reader = (.ok rows, last, store) →
      last.inner.wasCancelled = true → before.Unchanged after →
      Read table reader before (.error (.interrupted table.label rows), after)
  | stored {rows : Nat} {last : LimitedReader StreamReader} {after : Loader} :
      before.store.add table reader = (.ok rows, last, after.store) →
      last.inner.wasCancelled = false → after.catalogue = before.catalogue →
      Read table reader before (.ok { table with rows := rows }, after)

theorem load_read (table : UploadedTable) (reader : LimitedReader StreamReader)
    (loader : Loader) : Read table reader loader (loader.load table reader) := by
  rcases adds : loader.store.add table reader with ⟨added, last, store⟩
  simp only [load, note_store, adds]
  cases added with
  | error fault =>
      obtain rfl := Store.add_error adds
      exact .refused adds ⟨by simp, by simp⟩
  | ok rows =>
      rcases Store.add_ok adds with ⟨absent, stored, _, inserted⟩
      cases cancelled : last.inner.wasCancelled with
      | true =>
          -- The name was free before, so nothing else is discarded with the table.
          exact .interrupted adds cancelled
            ⟨by simp, by simp [inserted, Store.discard_insert absent]⟩
      | false => exact .stored (by simpa using adds) cancelled (by simp)

inductive Tried (arrival : Arrival) (before : Loader) :
    Except UploadFault UploadedTable × Loader → Prop
  | unopened {fault : UploadFault} :
      before.start arrival = .error fault → Tried arrival before (.error fault, before)
  | unread {reader next : LimitedReader StreamReader} {fault : ReadFault} :
      before.start arrival = .ok reader → TableReader.metadata reader = (.error fault, next) →
      Tried arrival before (.error (.reading arrival.upload.label fault), before.noteEnd next)
  | read {reader next : LimitedReader StreamReader} {columns : Metadata} :
      before.start arrival = .ok reader → TableReader.metadata reader = (.ok columns, next) →
      Tried arrival before
        (before.load
          { label := arrival.upload.label
            dbName := databaseName arrival.upload.label arrival.moment
            columns := columns }
          next)

theorem uploadOne_tried (arrival : Arrival) (loader : Loader) :
    Tried arrival loader (loader.uploadOne arrival) := by
  rw [uploadOne]
  split
  next starts => exact .unopened starts
  next starts =>
    simp only
    split
    next told => exact .unread starts told
    next told => exact .read starts told

theorem load_error (loads : loader.load table reader = (.error fault, after)) :
    loader.Unchanged after := by
  have read := load_read table reader loader
  rw [loads] at read
  cases read with
  | refused _ unchanged => exact unchanged
  | interrupted _ _ unchanged => exact unchanged

theorem load_ok (loads : loader.load table reader = (.ok loaded, after)) :
    loader.Stores loaded after := by
  have read := load_read table reader loader
  rw [loads] at read
  cases read with
  | stored adds _ same =>
      rcases Store.add_ok adds with ⟨absent, stored, holds, inserted⟩
      exact ⟨same, absent, stored, holds, inserted⟩

theorem uploadOne_error (uploads : loader.uploadOne arrival = (.error fault, after)) :
    loader.Unchanged after := by
  have tried := uploadOne_tried arrival loader
  rw [uploads] at tried
  generalize result : (Except.error fault, after) = came at tried
  cases tried with
  | unopened =>
      cases result
      exact ⟨rfl, rfl⟩
  | unread =>
      cases result
      exact ⟨by simp, by simp⟩
  | read => exact load_error result.symm

theorem uploadOne_ok (uploads : loader.uploadOne arrival = (.ok loaded, after)) :
    loader.Stores loaded after := by
  have tried := uploadOne_tried arrival loader
  rw [uploads] at tried
  generalize result : (Except.ok loaded, after) = came at tried
  cases tried with
  | unopened | unread => cases result
  | read => exact load_ok result.symm

theorem load_ok_named (loads : loader.load table reader = (.ok loaded, after)) :
    loaded.label = table.label ∧ loaded.dbName = table.dbName := by
  have read := load_read table reader loader
  rw [loads] at read
  cases read with
  | stored => exact ⟨rfl, rfl⟩

theorem uploadOne_ok_named (uploads : loader.uploadOne arrival = (.ok loaded, after)) :
    loaded.label = arrival.upload.label ∧
      loaded.dbName = databaseName arrival.upload.label arrival.moment := by
  have tried := uploadOne_tried arrival loader
  rw [uploads] at tried
  generalize result : (Except.ok loaded, after) = came at tried
  cases tried with
  | unopened | unread => cases result
  | read => exact load_ok_named result.symm

/-! ## Calls -/

/-- The loader after some calls, each with its uploads. -/
def afterCalls (calls : List (List Arrival)) (loader : Loader) : Loader :=
  calls.foldl (fun loader arrivals => (loader.upload arrivals).2) loader

def Consistent (earlier : List UploadedTable) (loader : Loader) : Prop :=
  ∃ uploaded, loader.catalogue.tables = earlier ++ uploaded ∧ loader.store.Registers uploaded

namespace Consistent

variable {earlier : List UploadedTable}

theorem unchanged (consistent : loader.Consistent earlier) (unchanged : loader.Unchanged after) :
    after.Consistent earlier := by
  rcases consistent with ⟨uploaded, tables, registers⟩
  exact ⟨uploaded, by rw [unchanged.catalogue, tables], by rwa [unchanged.store]⟩

theorem register (consistent : loader.Consistent earlier) (stores : loader.Stores table after) :
    { after with catalogue := after.catalogue.register table }.Consistent earlier := by
  rcases consistent with ⟨uploaded, tables, registers⟩
  rcases stores.batch with ⟨stored, holds, inserted⟩
  refine ⟨uploaded ++ [table], ?_, ?_⟩
  · simp [Catalogue.register, stores.catalogue, tables]
  · rw [inserted]
    exact registers.insert stores.absent holds

theorem upload (consistent : loader.Consistent earlier) (arrivals : List Arrival) :
    (loader.upload arrivals).2.Consistent earlier := by
  induction arrivals generalizing loader with
  | nil => exact consistent
  | cons arrival rest induction =>
      simp only [Loader.upload]
      split
      next uploads => exact consistent.unchanged (uploadOne_error uploads)
      next uploads => exact induction (consistent.register (uploadOne_ok uploads))

theorem afterCalls (consistent : loader.Consistent earlier) (calls : List (List Arrival)) :
    (loader.afterCalls calls).Consistent earlier := by
  induction calls generalizing loader with
  | nil => exact consistent
  | cons arrivals rest induction => exact induction (consistent.upload arrivals)

end Consistent

theorem upload_error {arrivals : List Arrival}
    (uploads : loader.upload arrivals = (some fault, after)) :
    ∃ done failing rest middle,
      arrivals = done ++ failing :: rest ∧
        loader.upload done = (none, middle) ∧
        middle.uploadOne failing = (.error fault, after) := by
  induction arrivals generalizing loader with
  | nil => cases uploads
  | cons arrival rest induction =>
      simp only [upload] at uploads
      split at uploads
      next fails =>
        cases uploads
        exact ⟨[], arrival, rest, loader, rfl, rfl, fails⟩
      next succeeds =>
        rcases induction uploads with ⟨done, failing, others, middle, split, before, fails⟩
        refine ⟨arrival :: done, failing, others, middle, by simp [split], ?_, fails⟩
        simpa [upload, succeeds] using before

/-- After any calls the store holds one batch for each table that they have registered. A
call ends with its first upload that fails, and that one leaves the store and the
catalogue as it found them. -/
theorem store_registers_after_calls (settings : Settings) (registry : Registry)
    (files : Files) (catalogue : Catalogue) (calls : List (List Arrival)) :
    let loader := afterCalls calls
      { settings := settings, registry := registry, files := files, catalogue := catalogue }
    (∃ uploaded,
        loader.catalogue.tables = catalogue.tables ++ uploaded ∧
          loader.store.Registers uploaded) ∧
      ∀ arrivals fault after, loader.upload arrivals = (some fault, after) →
        ∃ done failing rest middle,
          arrivals = done ++ failing :: rest ∧
            loader.upload done = (none, middle) ∧
            middle.uploadOne failing = (.error fault, after) ∧
            middle.Unchanged after := by
  intro loader
  constructor
  · have start : Consistent catalogue.tables
        { settings := settings, registry := registry, files := files, catalogue := catalogue } :=
      ⟨[], by simp, .empty⟩
    exact start.afterCalls calls
  · intro arrivals fault after uploads
    rcases upload_error uploads with ⟨done, failing, rest, middle, split, before, fails⟩
    exact ⟨done, failing, rest, middle, split, before, fails, uploadOne_error fails⟩

/-- A table whose name is taken is refused, and the one that has the name stays. -/
example :
    let steps : List ParserStep :=
      [.metadata [{ name := "id", datatype := some "int" }], .row [.int 1]]
    let arrival : Arrival := { upload := { label := "stars", origin := .given (.script steps) } }
    let loader : Loader :=
      { settings := { format := "script" }, registry := Registry.register (.scripts "script") {} }
    let result := loader.upload [arrival, arrival]
    result.1 = some (Store.nameTaken "stars" "stars_0") ∧
      result.2.store.names = ["stars_0"] := by
  decide

end Loader

end TableIntake

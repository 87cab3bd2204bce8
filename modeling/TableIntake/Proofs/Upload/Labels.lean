import TableIntake.Proofs.Store.Refusing
import TableIntake.Proofs.Upload.Registration
import TableIntake.Reader.Memory

/-! # Labels of failures

A failed upload says which one it was. The one failure that could not say so, a table whose built
columns do not go together, does not occur: whoever reads the rows, all columns have grown alike.
-/

namespace TableIntake

open TableReader

/-- Columns of just these types, with as many cells as there are rows, each of the type of its
column. -/
structure ColumnBuilder.Agree (columns : Metadata) (rows : Nat) (builders : List ColumnBuilder) :
    Prop where
  storages : builders.map (·.storage) = columns.map (·.type.storage)
  sizes : ∀ builder ∈ builders, builder.cells.size = rows
  cells : ∀ builder ∈ builders, ∀ cell ∈ builder.cells, cell.fits builder.storage = true

theorem Conversion.fits {storage : Storage} {cell : Cell} {value : StoredCell}
    (converts : Conversion storage cell value) : value.fits storage = true := by
  cases converts <;> rfl

theorem Storage.Lists.fits {storage : Storage} {rows : List Row} {index : Nat}
    {cells : Array StoredCell} (lists : storage.Lists rows index cells) :
    ∀ cell ∈ cells, cell.fits storage = true := by
  intro cell member
  rcases Array.mem_iff_getElem?.mp member with ⟨position, here⟩
  have within : position < rows.length := by
    rw [← lists.size]
    exact (Array.getElem?_eq_some_iff.mp here).1
  rcases lists.cells position _ (List.getElem?_eq_getElem within) with
    ⟨_, value, _, there, converts⟩
  obtain rfl : cell = value := Option.some.inj (here.symm.trans there)
  exact converts.fits

theorem Built.agree {columns : Metadata} {rows : List Row} {builders : List ColumnBuilder}
    (built : Built columns rows builders) : ColumnBuilder.Agree columns rows.length builders where
  storages := built.storages
  sizes builder member := by
    rcases List.mem_iff_getElem?.mp member with ⟨index, there⟩
    exact (built.lists index builder there).size
  cells builder member := by
    rcases List.mem_iff_getElem?.mp member with ⟨index, there⟩
    exact (built.lists index builder there).fits

theorem ColumnBuilder.Agree.assemble {columns : Metadata} {rows : Nat}
    {builders : List ColumnBuilder} (agree : Agree columns rows builders) :
    ∃ stored, StoredTable.assemble columns builders rows = .ok stored :=
  ⟨_, Built.assemble_of_fillColumns (Built.fillColumns_eq agree.storages agree.sizes)⟩

theorem UploadFault.reading_label? (label : String) (fault : ReadFault) :
    (reading label fault).label? = some label := by
  cases fault <;> rfl

namespace Store

variable {ρ : Type} [TableReader ρ] {reader last : ρ} {label : String} {columns : Metadata}

/-- Rows that are read up to the end of the table have grown all columns alike, however many there
are and whoever gives them. -/
theorem appendRows_agree {fuel count : Nat} {builders : List ColumnBuilder}
    (appends : appendRows label columns fuel 0 (columns.map .forColumn) reader =
      (.ok (builders, count), last)) : ColumnBuilder.Agree columns count builders := by
  have appended := @appendRows_appended ρ _ (fun _ => True) (fun _ => True) reader columns []
    (columns.map .forColumn) (fun _ => trivial) (fun _ _ => ⟨trivial, trivial⟩) trivial
    (.empty columns) label fuel 0
  rw [appends] at appended
  cases appended with
  | built _ built =>
      rw [Nat.zero_add]
      exact built.agree

theorem add_error_label {table : UploadedTable} {store after : Store} {fault : UploadFault}
    (adds : store.add table reader = (.error fault, last, after)) :
    fault.label? = some table.label := by
  rcases add_error_reasons adds with ⟨_, rfl⟩ | ⟨refusal, rfl⟩ | ⟨_, refused⟩
  · rfl
  · exact UploadFault.reading_label? table.label refusal
  · cases refused
    rfl

end Store

/-! ## Loaders -/

namespace Loader

variable {loader after : Loader} {reader : LimitedReader StreamReader} {table : UploadedTable}
  {arrival : Arrival} {fault : UploadFault}

theorem start_error_label (starts : loader.start arrival = .error fault) :
    fault.label? = some arrival.upload.label := by
  simp only [start] at starts
  split at starts
  · cases starts
    rfl
  · split at starts
    · cases starts
      exact UploadFault.reading_label? arrival.upload.label _
    · cases starts

theorem load_error_label (loads : loader.load table reader = (.error fault, after)) :
    fault.label? = some table.label := by
  have read := load_read table reader loader
  rw [loads] at read
  cases read with
  | refused adds => exact Store.add_error_label adds
  | interrupted => rfl

theorem uploadOne_error_label (uploads : loader.uploadOne arrival = (.error fault, after)) :
    fault.label? = some arrival.upload.label := by
  have tried := uploadOne_tried arrival loader
  rw [uploads] at tried
  generalize result : (Except.error fault, after) = came at tried
  cases tried with
  | unopened starts =>
      cases result
      exact start_error_label starts
  | unread =>
      cases result
      exact UploadFault.reading_label? arrival.upload.label _
  | read => exact load_error_label result.symm

/-- A failure names the first upload that failed. None of them lies with the columns that were
built: when the rows of a table are read, whatever gives them, the columns agree and make a
table. -/
theorem failure_names_first_failed :
    (∀ (loader : Loader) (arrivals : List Arrival) (fault : UploadFault) (after : Loader),
      loader.upload arrivals = (some fault, after) →
        ∃ done failing rest middle,
          arrivals = done ++ failing :: rest ∧
            loader.upload done = (none, middle) ∧
            middle.uploadOne failing = (.error fault, after) ∧
            fault.label? = some failing.upload.label) ∧
      ∀ (ρ : Type) [TableReader ρ] (reader : ρ),
        (∀ (table : UploadedTable) (store : Store) (fault : UploadFault),
          (store.add table reader).1 = .error fault →
            fault.label? = some table.label ∧ ∀ refusal, fault ≠ .arrow refusal) ∧
          ∀ (label : String) (columns : Metadata) (fuel count : Nat)
              (builders : List ColumnBuilder) (last : ρ),
            Store.appendRows label columns fuel 0 (columns.map .forColumn) reader =
                (.ok (builders, count), last) →
              ColumnBuilder.Agree columns count builders ∧
                ∃ stored, StoredTable.assemble columns builders count = .ok stored := by
  refine ⟨?_, fun ρ _ reader => ⟨?_, ?_⟩⟩
  · intro loader arrivals fault after uploads
    rcases upload_error uploads with ⟨done, failing, rest, middle, split, before, fails⟩
    exact ⟨done, failing, rest, middle, split, before, fails, uploadOne_error_label fails⟩
  · intro table store fault refused
    rcases adds : store.add table reader with ⟨added, last, after⟩
    rw [adds] at refused
    obtain rfl : added = .error fault := refused
    have names := Store.add_error_label adds
    refine ⟨names, ?_⟩
    rintro refusal rfl
    cases names
  · intro label columns fuel count builders last appends
    have agree := Store.appendRows_agree appends
    exact ⟨agree, agree.assemble⟩

theorem failure_names_second_of_three :
    let header : Header := [{ name := "id", datatype := some "int" }]
    let arrival (label : String) (cell : Cell) : Arrival :=
      { upload := { label := label, origin := .given (.script [.metadata header, .row [cell]]) } }
    let arrivals := [arrival "stars" (.int 1), arrival "dust" (.text "x"), arrival "gas" (.int 2)]
    let loader : Loader :=
      { settings := { format := "script" }, registry := Registry.register (.scripts "script") {} }
    (∃ fault after failing, loader.upload arrivals = (some fault, after) ∧ failing ∈ arrivals ∧
        fault.label? = some failing.upload.label ∧ failing.upload.label = "dust") ∧
      ∃ stored, StoredTable.assemble [] [] 2 = .ok stored := by
  intro header arrival arrivals loader
  constructor
  · have fails : (loader.upload arrivals).1.map (·.label?) = some (some "dust") := by decide
    rcases Option.map_eq_some_iff.mp fails with ⟨fault, refused, dust⟩
    have uploads : loader.upload arrivals = (some fault, (loader.upload arrivals).2) :=
      Prod.ext refused rfl
    rcases failure_names_first_failed.1 loader arrivals fault _ uploads with
      ⟨done, failing, rest, middle, split, _, _, names⟩
    have among : failing ∈ arrivals := by simp [split]
    exact ⟨fault, _, failing, uploads, among, names, Option.some.inj (names.symm.trans dust)⟩
  · have reads : Store.appendRows "void" [] 3 0 [] (MemoryReader.ofRows [] [[], []]) =
        (.ok ([], 2), _) := rfl
    exact ((failure_names_first_failed.2 MemoryReader _).2 "void" [] 3 2 [] _ reads).2

end Loader

end TableIntake

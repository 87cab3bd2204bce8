import TableIntake.Proofs.Document.Telling
import TableIntake.Proofs.Reader.Ending
import TableIntake.Proofs.Reader.Taking
import TableIntake.Proofs.Store.Refusing
import TableIntake.Proofs.Upload.Registration

/-! # Recorded rows

The table of an upload has the first of the rows that its parser hands over, whatever its other
threads do meanwhile, and what these cost is within the quota.
-/

namespace TableIntake

open TableReader

/-! ## Sources -/

def Source.rows : Source → List Row
  | .document whole => whole.rows
  | .bytes _ | .script _ | .unreadable _ => []

namespace Document

theorem handed_ending (document : Document) :
    document.ending.flatMap ParserStep.handed = [] := by
  unfold ending
  split <;> rfl

theorem handed_batches (document : Document) (batches : List Batch) :
    (document.stepsOfBatches batches).flatMap ParserStep.handed =
      (rowsOfBatches document.fields batches).1 := by
  induction batches with
  | nil => exact document.handed_ending
  | cons batch rest induction =>
      unfold stepsOfBatches rowsOfBatches
      cases reads : batch.rowsOf document.fields with
      | error breakdown => cases breakdown <;> rfl
      | ok rows =>
          have read : (rows.map ParserStep.row).flatMap ParserStep.handed = rows := by
            rw [List.flatMap_map]
            exact List.flatMap_singleton' rows
          simp only [List.cons_append, List.flatMap_cons, List.flatMap_append, read, induction]
          rfl

theorem handed_steps (document : Document) :
    document.steps.flatMap ParserStep.handed <+: document.rows := by
  cases hides : document.hidden? with
  | some fault =>
      rw [(steps_of_hidden hides).1]
      exact List.nil_prefix
  | none =>
      rw [steps_of_shown hides, List.flatMap_cons, handed_batches]
      exact List.prefix_refl _

end Document

theorem handed_bytes (bytes : List UInt8) :
    (stepsOfBytes bytes).flatMap ParserStep.handed = [] := by
  unfold stepsOfBytes stepsOfMessage
  simp only
  repeat' split
  all_goals rfl

theorem TableParser.handed_documents (source : Source) :
    (documents.steps source).flatMap ParserStep.handed <+: source.rows := by
  -- The parser of documents hands over rows of documents only.
  cases source with
  | document document => exact document.handed_steps
  | bytes bytes => exact (handed_bytes bytes).symm ▸ List.nil_prefix
  | script => exact List.nil_prefix
  | unreadable => exact List.nil_prefix

/-! ## Stores -/

theorem Store.add_recorded {ρ : Type} [TableReader ρ] {table : UploadedTable} {reader last : ρ}
    {store after : Store} {count : Nat} (adds : store.add table reader = (.ok count, last, after)) :
    ∃ rows standing stored, Yields table.columns.length reader rows standing ∧
      count = rows.length ∧ stored.Records table.columns rows ∧
      after.table? table.dbName = some stored := by
  have appended := @appendRows_appended ρ _ (fun _ => True) (fun _ => True) reader table.columns []
    (table.columns.map .forColumn) (fun _ => trivial) (fun _ _ => ⟨trivial, trivial⟩) trivial
    (.empty table.columns) table.label (remaining reader + 1) 0
  have added := add_added table reader store
  rw [adds] at added
  cases added with
  | @stored _ _ stored _ absent appends assembles =>
      rw [appends] at appended
      cases appended with
      | @built rows _ standing yields built =>
          rcases built.assemble with ⟨_, assembles', records⟩
          rw [List.nil_append] at assembles' records
          rw [Nat.zero_add, assembles'] at assembles
          cases assembles
          have there := table?_insert absent stored table.dbName
          rw [if_pos rfl] at there
          exact ⟨rows, standing, stored, yields, Nat.zero_add _, records, there⟩

/-! ## Loaders -/

namespace Loader

variable {loader after : Loader} {reader : LimitedReader StreamReader} {arrival : Arrival}
  {table loaded : UploadedTable} {quota : Quota} {coming : List Row}

/-- A table with the first of these rows, and what is stored of it. -/
structure Recorded (quota : Quota) (coming : List Row) (table : UploadedTable)
    (stored : StoredTable) (rows : List Row) : Prop where
  first : rows <+: coming
  within : ¬quota.Exceeded (quota.total (rows.map Row.byteSize))
  count : table.rows = rows.length
  records : stored.Records table.columns rows

theorem load_recorded (passing : reader.Passing quota table.columns [] coming)
    (loads : loader.load table reader = (.ok loaded, after)) :
    ∃ stored rows, Recorded quota coming loaded stored rows ∧
      after.store.table? loaded.dbName = some stored := by
  have read := load_read table reader loader
  rw [loads] at read
  cases read with
  | stored adds =>
      rcases Store.add_recorded adds with ⟨rows, standing, stored, yields, count, records, there⟩
      rcases passing.run yields with ⟨later, rfl, passed⟩
      exact ⟨stored, rows, ⟨List.prefix_append _ _, passed.not_exceeded, count, records⟩, there⟩

theorem start_ok (starts : loader.start arrival = .ok reader) :
    ∃ source parser, arrival.upload.source loader.files = .ok source ∧
      loader.registry.get loader.settings.format = .ok parser ∧
      reader = .limit (.scheduled (parser.steps source) loader.settings.isImpatient
        arrival.schedule) loader.settings.quota := by
  simp only [start] at starts
  split at starts
  · cases starts
  next source opens =>
    split at starts
    · cases starts
    next parser format =>
      cases starts
      exact ⟨source, parser, opens, format, rfl⟩

theorem uploadOne_recorded (uploads : loader.uploadOne arrival = (.ok table, after)) :
    ∃ source parser stored rows, arrival.upload.source loader.files = .ok source ∧
      loader.registry.get loader.settings.format = .ok parser ∧
      Recorded loader.settings.quota ((parser.steps source).flatMap ParserStep.handed) table stored
        rows ∧
      after.store.table? table.dbName = some stored := by
  have tried := uploadOne_tried arrival loader
  rw [uploads] at tried
  generalize result : (Except.ok table, after) = came at tried
  cases tried with
  | unopened | unread => cases result
  | read starts told =>
      rcases start_ok starts with ⟨source, parser, opens, format, rfl⟩
      rcases load_recorded (LimitedReader.Passing.start told) result.symm with
        ⟨stored, rows, recorded, there⟩
      exact ⟨source, parser, stored, rows, opens, format, recorded, there⟩

end Loader

end TableIntake

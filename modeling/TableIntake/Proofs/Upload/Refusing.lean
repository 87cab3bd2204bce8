import TableIntake.Proofs.Document.Loading
import TableIntake.Proofs.Reader.Ending
import TableIntake.Proofs.Reader.Keeping
import TableIntake.Proofs.Reader.Serving
import TableIntake.Proofs.Store.Refusing
import TableIntake.Proofs.Upload.Outcome

/-! # Uploads with refused cells

Whatever the threads do in an upload, and however it ends, the store refuses a cell only if it is
one of the document's, in its own column. A column that declares no datatype refuses no cells but
lists of booleans or numbers with a null among them.
-/

namespace TableIntake

open TableReader

def UploadFault.isOfStore : UploadFault → Bool
  | .unstorable _ _ | .arrow _ => true
  | _ => false

theorem UploadFault.reading_isOfStore (label : String) (fault : ReadFault) :
    (reading label fault).isOfStore = false := by
  cases fault <;> rfl

/-! ## Documents -/

namespace Document

variable {document : Document} {header : Header} {rows : List Row}

theorem within_stepsOfBatches (document : Document) (batches : List Batch)
    (told : ∀ row ∈ (rowsOfBatches document.fields batches).1, row ∈ rows) :
    ∀ step ∈ document.stepsOfBatches batches, step.Within header rows := by
  induction batches with
  | nil =>
      unfold stepsOfBatches ending
      split <;> simp [ParserStep.Within]
  | cons batch rest induction =>
      unfold rowsOfBatches at told
      unfold stepsOfBatches
      cases reads : batch.rowsOf document.fields with
      | error breakdown => cases breakdown <;> simp [Breakdown.step, ParserStep.Within]
      | ok first =>
          rw [reads] at told
          intro step member
          rcases List.mem_append.mp member with here | later
          · rcases List.mem_cons.mp here with rfl | mapped
            · trivial
            · rcases List.mem_map.mp mapped with ⟨row, among, rfl⟩
              exact told row (List.mem_append_left _ among)
          · exact induction (fun row among => told row (List.mem_append_right _ among)) step later

theorem within_steps (document : Document) :
    ∀ step ∈ document.steps, step.Within document.header document.rows := by
  cases hides : document.hidden? with
  | some fault =>
      rw [(steps_of_hidden hides).1]
      simp [ParserStep.Within]
  | none =>
      rw [steps_of_shown hides]
      refine List.forall_mem_cons.mpr ⟨rfl, ?_⟩
      exact within_stepsOfBatches document document.readable fun _ member => member

end Document

/-! ## Loaders -/

namespace Loader

variable {loader : Loader} {arrival : Arrival} {header : Header} {rows : List Row}
  {limited : LimitedReader StreamReader} {fault : UploadFault}

/-- A cell of one of these rows that its column refuses. -/
inductive Refuses (label : String) (columns : Metadata) (rows : List Row) : UploadFault → Prop
  | cell {row : Row} {index : Nat} {column : Column} {cell : Cell} :
      row ∈ rows → columns[index]? = some column → row[index]? = some cell → ¬column.Takes cell →
      Refuses label columns rows (Store.refusedCell label column cell)

theorem load_refuses {table : UploadedTable}
    (deals : limited.inner.Meets (Producer.Deals header rows))
    (fails : (loader.load table limited).1 = .error fault) (ofStore : fault.isOfStore = true) :
    fault = Store.nameTaken table.label table.dbName ∨
      Refuses table.label table.columns rows fault := by
  have stable := Producer.Deals.stable header rows
  let Holds (limited : LimitedReader StreamReader) :=
    limited.inner.Meets (Producer.Deals header rows)
  have column {limited : LimitedReader StreamReader} (deals : Holds limited) :
      Holds (nextColumn limited).2 := by
    simp only [nextColumn]
    split
    · exact deals
    · exact deals
  have row {limited next : LimitedReader StreamReader} (deals : Holds limited)
      (moves : nextRow limited = (.ok true, next)) :
      Holds next ∧ ∃ row ∈ rows, next.inner.Stands row := by
    have bare := LimitedReader.inner_nextRow moves
    have later := StreamReader.Meets.nextRow deals stable
    rw [bare] at later
    exact ⟨later, StreamReader.nextRow_stands deals bare⟩
  have read := load_read table limited loader
  generalize loader.load table limited = result at read fails
  cases read with
  | stored => cases fails
  | interrupted =>
      cases fails
      cases ofStore
  | refused adds =>
      cases fails
      rcases Store.add_error_cases column row deals adds with
        ⟨_, taken⟩ | ⟨refusal, rfl⟩ | ⟨standing, ⟨row, member, stands⟩, refused⟩
      · exact .inl taken
      · rw [UploadFault.reading_isOfStore] at ofStore
        cases ofStore
      · cases refused with
        | cell serves known here refuses =>
            have served := StreamReader.getElem?_of_servesRow
              (LimitedReader.servesRow_inner serves) here
            rw [stands.row, stands.column, Nat.zero_add] at served
            exact .inr (.cell member known served refuses)

theorem uploadOne_refuses {steps : List ParserStep} {source : Source} {parser : TableParser}
    (within : ∀ step ∈ steps, step.Within header rows)
    (opens : arrival.upload.source loader.files = .ok source)
    (format : loader.registry.get loader.settings.format = .ok parser)
    (parses : parser.steps source = steps) (fails : (loader.uploadOne arrival).1 = .error fault)
    (ofStore : fault.isOfStore = true) :
    fault = Store.nameTaken arrival.upload.label
        (databaseName arrival.upload.label arrival.moment) ∨
      ∃ columns, header.metadata = .ok columns ∧
        Refuses arrival.upload.label columns rows fault := by
  let reader := StreamReader.scheduled steps loader.settings.isImpatient arrival.schedule
  have deals : reader.Meets (Producer.Deals header rows) := .start within
  have starts : loader.start arrival = .ok (.limit reader loader.settings.quota) := by
    simp only [start, opens, format, parses]
    rfl
  have known := deals.metadata (Producer.Deals.stable header rows)
  have tried := uploadOne_tried arrival loader
  generalize loader.uploadOne arrival = result at tried fails
  cases tried with
  | unopened starts' => cases starts.symm.trans starts'
  | unread =>
      cases fails
      rw [UploadFault.reading_isOfStore] at ofStore
      cases ofStore
  | @read _ next columns starts' told =>
      cases starts.symm.trans starts'
      have told : reader.metadata = (.ok columns, next.inner) := LimitedReader.inner_metadata told
      rw [told] at known
      rcases load_refuses known fails ofStore with taken | refuses
      · exact .inl taken
      · rcases StreamReader.columns_of_metadata deals rfl told with resolves | rfl
        · exact .inr ⟨columns, resolves, refuses⟩
        · cases refuses with
          | cell _ none => cases none

end Loader

theorem Document.getElem?_column {document : Document} {columns : Metadata} {index : Nat}
    {column : Column} (resolves : document.header.metadata = .ok columns)
    (there : columns[index]? = some column) :
    ∃ field, document.fields[index]? = some field ∧ field.declaration.column = .ok column := by
  rw [Header.metadata_eq_mapM, header, List.mapM_map] at resolves
  have within := (List.getElem?_eq_some_iff.mp there).1
  have here := List.getElem?_eq_getElem (length_of_mapM resolves ▸ within)
  rcases getElem?_of_mapM resolves here with ⟨known, same, resolved⟩
  cases there.symm.trans same
  exact ⟨_, here, resolved⟩

theorem Document.Outcome.succeeds_iff {document : Document} {label dbName : String} {quota : Quota}
    {store after : Store} {result : Except UploadFault UploadedTable}
    (wellFormed : document.WellFormed)
    (outcome : document.Outcome label dbName quota store result after) :
    (∃ table, result = .ok table) ↔
      document.Loads ∧ ¬quota.Exceeded (quota.total (document.rows.map Row.byteSize)) := by
  cases outcome with
  | hidden hides =>
      refine iff_of_false nofun ?_
      rintro ⟨loads, _⟩
      cases hides.symm.trans loads.shown
  | @unresolved _ _ field _ _ split _ fails =>
      refine iff_of_false nofun ?_
      rintro ⟨loads, _⟩
      rcases loads.fields field (by simp [← split]) with ⟨column, resolved⟩
      cases fails.symm.trans resolved
  | rows shown resolves outcome =>
      rw [Document.loads_iff wellFormed shown resolves]
      cases outcome with
      | stopped split _ stops =>
          refine iff_of_false nofun ?_
          rintro ⟨⟨_, storable⟩, within⟩
          have admits : Admits quota _ document.rows := ⟨within, storable⟩
          rw [← split, List.append_cons] at admits
          exact stops.not_admits admits.initial
      | failed _ fails =>
          refine iff_of_false nofun ?_
          rintro ⟨⟨ends, _⟩, _⟩
          cases fails.symm.trans ends
      | stored admits ends => exact iff_of_true ⟨_, rfl⟩ ⟨⟨ends, admits.storable⟩, admits.within⟩

/-- A field that declares no datatype has a column, and that refuses just the cells of lists of
booleans or numbers with a null among them. Its values fail to load only for such a list, or if they
cannot be converted at all: they are shown as text, and a zone in their type has no known offset, or
one of them has no text. A document that nobody disturbs is stored just if it can be read to its
end, its columns load, and its rows are within the quota. Even if it is disturbed, the store refuses
nothing but a cell of the document in its own column, and if that declares no datatype, such a list.
-/
theorem undeclared_loads_unless_broken_or_gapped (field : Field)
    (undeclared : field.annotation? "datatype" = none) :
    (∃ column, field.declaration.column = .ok column ∧
      ∀ data, (∀ datum ∈ data, field.type.Holds datum) →
        (¬field.Loads data ↔
          (∃ breakdown, field.type.Breaks data breakdown) ∨
            ∃ datum ∈ data, field.type.Gapped datum) ∧
        ∀ cells, field.type.cells data = .ok cells →
          ∀ (position : Nat) datum cell, data[position]? = some datum →
            cells[position]? = some cell →
            ∀ builder : ColumnBuilder, builder.storage = column.type.storage →
              (builder.append? cell = none ↔ field.type.Gapped datum)) ∧
      ∀ (loader : Loader) (arrival : Arrival) (document : Document),
        document.WellFormed →
        arrival.upload.source loader.files = .ok (.document document) →
        loader.registry.get loader.settings.format = .ok .documents →
        (loader.settings.isImpatient = false → Uncancelled arrival.schedule →
          loader.store.table? (databaseName arrival.upload.label arrival.moment) = none →
          let quota := loader.settings.quota
          ((∃ table, (loader.uploadOne arrival).1 = .ok table) ↔
            document.Loads ∧ ¬quota.Exceeded (quota.total (document.rows.map Row.byteSize)))) ∧
        ∀ fault, (loader.uploadOne arrival).1 = .error fault → fault.isOfStore = true →
          fault = Store.nameTaken arrival.upload.label
              (databaseName arrival.upload.label arrival.moment) ∨
            ∃ index other column datum cell, document.fields[index]? = some other ∧
              datum ∈ columnOf document.readable index ∧
              other.declaration.column = .ok column ∧ other.type.Converts datum cell ∧
              fault = Store.refusedCell arrival.upload.label column cell ∧
              (other.annotation? "datatype" = none → other.type.Gapped datum) := by
  constructor
  · rcases Field.column_of_undeclared undeclared with ⟨column, resolves, _⟩
    refine ⟨column, resolves, fun data holds => ?_⟩
    refine ⟨Field.not_loads_iff_of_undeclared undeclared holds, ?_⟩
    intro cells reads position datum cell here there builder same
    have all := FieldType.convertsAll_of_cells holds reads
    have converts := all.cells position datum cell here there
    rw [Store.append?_eq_none_iff, same]
    exact Field.refuses_iff_gapped undeclared resolves converts
  · intro loader arrival document wellFormed opens format
    constructor
    · intro patient uncancelled absent quota
      exact (Loader.uploadOne_outcome wellFormed.regular opens format patient uncancelled
        absent).succeeds_iff wellFormed
    · intro fault fails ofStore
      rcases Loader.uploadOne_refuses document.within_steps opens format rfl fails ofStore with
        taken | ⟨columns, resolves, refuses⟩
      · exact .inl taken
      · cases refuses with
        | @cell row index column cell member known here refuses =>
            rcases Document.getElem?_column resolves known with ⟨other, there, resolved⟩
            rcases wellFormed.exists_datum member there here with ⟨datum, among, converts⟩
            refine .inr ⟨index, other, column, datum, cell, there, among, resolved, converts, rfl,
              ?_⟩
            intro undeclared
            exact (Field.refuses_iff_gapped undeclared resolved converts).mp refuses

theorem undeclared_loads_unless_gapped_list :
    let field : Field := { name := "x", type := .list .int32 }
    let gapped : Datum := .many [.whole 1, .null]
    let document : Document := { fields := [field], batches := [⟨[[.many [.whole 1], gapped]], 2⟩] }
    let arrival : Arrival := { upload := { label := "t", origin := .given (.document document) } }
    let loader : Loader := { settings := {} }
    let message := "column \"x\": cannot store \"1 null\" as VARBINARY"
    document.WellFormed ∧ (loader.uploadOne arrival).1 = .error (.unstorable "t" message) ∧
      field.type.Gapped gapped ∧ ¬field.Loads [.many [.whole 1], gapped] ∧ ¬document.Loads ∧
      ∃ column, field.declaration.column = .ok column ∧
        (ColumnBuilder.forColumn column).append? (.array [.int 1]) ≠ none ∧
        (ColumnBuilder.forColumn column).append? (.array [.int 1, .null]) = none ∧
        ∃ datum ∈ columnOf document.readable 0, field.type.Gapped datum := by
  intro field gapped document arrival loader message
  rcases undeclared_loads_unless_broken_or_gapped field rfl with
    ⟨⟨column, resolves, columns⟩, uploads⟩
  have one : FieldType.int32.Holds (.whole 1) := .whole rfl (by decide) (by decide)
  have holds : ∀ datum ∈ [.many [.whole 1], gapped], field.type.Holds datum := by
    refine List.forall_mem_cons.mpr ⟨.many (List.forall_mem_singleton.mpr one), ?_⟩
    refine List.forall_mem_singleton.mpr (.many (List.forall_mem_cons.mpr ⟨one, ?_⟩))
    exact List.forall_mem_singleton.mpr .null
  have wellFormed : document.WellFormed := by
    refine ⟨List.cons_ne_nil _ _, List.forall_mem_singleton.mpr ⟨rfl, ?_, ?_⟩⟩
    · exact List.forall_mem_singleton.mpr rfl
    · exact List.forall_mem_singleton.mpr holds
  have gap : field.type.Gapped gapped := by
    refine .list rfl ⟨⟨.int, by simp, rfl⟩, rfl, rfl⟩ ?_
    simp
  have full : ¬field.type.Gapped (.many [.whole 1]) := by
    rintro ⟨_, _, null⟩
    cases List.mem_singleton.mp null
  have reads : field.type.cells [.many [.whole 1], gapped] =
      .ok [.array [.int 1], .array [.int 1, .null]] := rfl
  have fails : (loader.uploadOne arrival).1 = .error (.unstorable "t" message) := by
    unfold loader arrival document
    rfl
  have format : loader.registry.get loader.settings.format = .ok .documents := by
    unfold loader
    rfl
  rcases columns _ holds with ⟨loads, refuses⟩
  rcases uploads loader arrival document wellFormed rfl format with ⟨undisturbed, disturbed⟩
  have lost : ¬document.Loads := by
    intro loads
    rcases (undisturbed rfl nofun rfl).mpr ⟨loads, fun exceeded => exceeded.1 rfl⟩ with
      ⟨table, succeeds⟩
    cases fails.symm.trans succeeds
  have stored : (ColumnBuilder.forColumn column).append? (.array [.int 1]) ≠ none := by
    rw [Ne, refuses _ reads 0 _ _ rfl rfl (.forColumn column) rfl]
    exact full
  have refused := (refuses _ reads 1 _ _ rfl rfl (.forColumn column) rfl).mpr gap
  have unloaded := loads.mpr (.inr ⟨gapped, by simp, gap⟩)
  refine ⟨wellFormed, fails, gap, unloaded, lost, column, resolves, stored, refused, ?_⟩
  rcases disturbed _ fails rfl with
    taken | ⟨index, other, _, datum, _, there, among, _, _, _, gapped⟩
  · exact absurd taken (by decide +kernel)
  · cases index with
    | zero =>
        cases there
        exact ⟨datum, among, gapped rfl⟩
    | succ index => cases there

/-- A zone with a name keeps a column from loading, though it declares no datatype and holds no list
at all. -/
theorem not_loaded_of_named_zone :
    let field : Field := { name := "seen", type := .timestamp .second (some ⟨"UTC"⟩) }
    let document : Document := { fields := [field], batches := [⟨[[.null]], 1⟩] }
    let arrival : Arrival := { upload := { label := "t", origin := .given (.document document) } }
    let loader : Loader := { settings := {} }
    document.WellFormed ∧ field.annotation? "datatype" = none ∧ Uncancelled arrival.schedule ∧
      loader.settings.isImpatient = false ∧ loader.settings.quota = .unlimited ∧
      loader.store.table? (databaseName "t" 0) = none ∧
      (∀ datum ∈ columnOf document.batches 0, ¬field.type.Gapped datum) ∧
      (loader.uploadOne arrival).1 =
        .error (.unreadable "t" (.parse (.arrow (.parser ("Invalid timezone \"UTC\": " ++
          "only offset based timezones supported without chrono-tz feature"))))) := by
  intro field document arrival loader
  have wellFormed : document.WellFormed := by
    refine ⟨List.cons_ne_nil _ _, List.forall_mem_singleton.mpr ⟨rfl, ?_, ?_⟩⟩
    · exact List.forall_mem_singleton.mpr rfl
    · exact List.forall_mem_singleton.mpr (List.forall_mem_singleton.mpr .null)
  refine ⟨wellFormed, rfl, nofun, rfl, rfl, rfl, ?_, ?_⟩
  · exact fun _ _ => nofun
  · unfold loader arrival document field
    rfl

end TableIntake

import TableIntake.Proofs.Document.Telling
import TableIntake.Proofs.Store.Filling
import TableIntake.Proofs.Upload.Registration

/-! # Outcomes

What becomes of a document that is uploaded follows from the document, the quota and the store
alone. Of the fields, the quota, the cells and the end of the document, the first one that has
something against the upload decides.
-/

namespace TableIntake

open TableReader

/-! ## Tables of rows -/

/-- Rows that are within the quota, and whose cells can all be stored. -/
structure Admits (quota : Quota) (columns : Metadata) (rows : List Row) : Prop where
  within : ¬quota.Exceeded (quota.total (rows.map Row.byteSize))
  storable : ∀ row ∈ rows, row.Storable columns

/-- What is wrong with a row that comes behind others. The quota is looked at first, and then the
cells from left to right. -/
inductive RowFault (table : UploadedTable) (quota : Quota) (before : List Row) (row : Row) :
    UploadFault → Prop
  | exceeded :
      quota.Exceeded (quota.total ((before ++ [row]).map Row.byteSize)) →
      RowFault table quota before row (.quotaExceeded table.label quota)
  | refused {column : Column} {cell : Cell} :
      ¬quota.Exceeded (quota.total ((before ++ [row]).map Row.byteSize)) →
      row.RefusedAt table.columns column cell →
      RowFault table quota before row (Store.refusedCell table.label column cell)

/-- What becomes of rows that are followed by a fault or by nothing, when they are stored as a
new table. -/
inductive RowsOutcome (table : UploadedTable) (quota : Quota) (store : Store) (rows : List Row)
    (fault : Option ParseFault) : Except UploadFault UploadedTable → Store → Prop
  | stopped {before after : List Row} {row : Row} {cause : UploadFault} :
      before ++ row :: after = rows →
      Admits quota table.columns before →
      RowFault table quota before row cause →
      RowsOutcome table quota store rows fault (.error cause) store
  | failed {cause : ParseFault} :
      Admits quota table.columns rows →
      fault = some cause →
      RowsOutcome table quota store rows fault
        (.error (.unreadable table.label (.parse cause))) store
  | stored {stored : StoredTable} :
      Admits quota table.columns rows →
      fault = none →
      stored.Records table.columns rows →
      RowsOutcome table quota store rows fault (.ok { table with rows := rows.length })
        (store.insert table.dbName stored)

theorem within_initial {quota : Quota} {left right : List Row}
    (within : ¬quota.Exceeded (quota.total ((left ++ right).map Row.byteSize))) :
    ¬quota.Exceeded (quota.total (left.map Row.byteSize)) := by
  intro exceeded
  apply within
  rw [List.map_append]
  exact exceeded.append _

theorem Admits.initial {quota : Quota} {columns : Metadata} (left right : List Row)
    (admits : Admits quota columns (left ++ right)) : Admits quota columns left where
  within := within_initial admits.within
  storable row member := admits.storable row (List.mem_append_left right member)

variable {table : UploadedTable} {quota : Quota} {before : List Row} {row : Row}

namespace RowFault

variable {cause other : UploadFault}

theorem not_admits (fault : RowFault table quota before row cause) :
    ¬Admits quota table.columns (before ++ [row]) := by
  intro admits
  cases fault with
  | exceeded exceeded => exact admits.within exceeded
  | refused _ refused => exact refused.not_storable (admits.storable row (by simp))

theorem unique (fault : RowFault table quota before row cause)
    (again : RowFault table quota before row other) : cause = other := by
  cases fault with
  | exceeded exceeded =>
      cases again with
      | exceeded => rfl
      | refused within => exact absurd exceeded within
  | refused within refused =>
      cases again with
      | exceeded exceeded => exact absurd exceeded within
      | refused _ refused' =>
          rcases refused.unique refused' with ⟨rfl, rfl⟩
          rfl

end RowFault

namespace RowsOutcome

variable {store after after' : Store} {rows : List Row} {fault : Option ParseFault}
  {result result' : Except UploadFault UploadedTable}

theorem unique (outcome : RowsOutcome table quota store rows fault result after)
    (again : RowsOutcome table quota store rows fault result' after') :
    result = result' ∧ after = after' := by
  have stays {before after : List Row} {row : Row} {cause : UploadFault}
      (split : before ++ row :: after = rows) (stops : RowFault table quota before row cause) :
      ¬Admits quota table.columns rows := by
    intro admits
    rw [← split, List.append_cons] at admits
    exact stops.not_admits admits.initial
  cases outcome with
  | stopped split admits stops =>
      cases again with
      | stopped split' admits' stops' =>
          rcases first_unique (Admits quota table.columns) Admits.initial (split.trans split'.symm)
            admits stops.not_admits admits' stops'.not_admits with ⟨rfl, rfl⟩
          exact ⟨congrArg Except.error (stops.unique stops'), rfl⟩
      | failed admits' | stored admits' => exact absurd admits' (stays split stops)
  | failed admits fails =>
      cases again with
      | stopped split' _ stops' => exact absurd admits (stays split' stops')
      | failed _ fails' =>
          cases fails.symm.trans fails'
          exact ⟨rfl, rfl⟩
      | stored _ ends' => cases fails.symm.trans ends'
  | stored admits ends records =>
      cases again with
      | stopped split' _ stops' => exact absurd admits (stays split' stops')
      | failed _ fails' => cases ends.symm.trans fails'
      | stored _ _ records' =>
          rw [records.unique records']
          exact ⟨rfl, rfl⟩

end RowsOutcome

/-! ## Documents -/

/-- What becomes of a document that is uploaded under a label. -/
inductive Document.Outcome (document : Document) (label dbName : String) (quota : Quota)
    (store : Store) : Except UploadFault UploadedTable → Store → Prop
  | hidden {fault : ParseFault} :
      document.hidden? = some fault →
      Outcome document label dbName quota store (.error (.unreadable label (.parse fault))) store
  | unresolved {before after : List Field} {field : Field} {fault : SchemaFault} :
      document.hidden? = none →
      before ++ field :: after = document.fields →
      (∀ other ∈ before, ∃ column, other.declaration.column = .ok column) →
      field.declaration.column = .error fault →
      Outcome document label dbName quota store (.error (.unreadable label (.schema fault))) store
  | rows {columns : Metadata} {result : Except UploadFault UploadedTable} {after : Store} :
      document.hidden? = none →
      document.header.metadata = .ok columns →
      RowsOutcome { label := label, dbName := dbName, columns := columns } quota store
        document.rows document.end? result after →
      Outcome document label dbName quota store result after

namespace Document

variable {document : Document} {label dbName : String} {store after after' : Store}
  {result result' : Except UploadFault UploadedTable}

theorem header_unresolved {fault : SchemaFault} (fails : document.header.metadata = .error fault) :
    ∃ before field after, document.fields = before ++ field :: after ∧
      (∀ other ∈ before, ∃ column, other.declaration.column = .ok column) ∧
      field.declaration.column = .error fault := by
  rw [Header.metadata_eq_mapM, header, List.mapM_map] at fails
  exact exists_of_mapM_error fails

theorem header_resolved {columns : Metadata} (resolves : document.header.metadata = .ok columns) :
    columns.length = document.fields.length ∧
      ∀ field ∈ document.fields, ∃ column, field.declaration.column = .ok column := by
  rw [Header.metadata_eq_mapM, header, List.mapM_map] at resolves
  exact ⟨length_of_mapM resolves, fun field member => of_mapM_ok resolves member⟩

theorem not_resolved {before after : List Field} {field : Field} {fault : SchemaFault}
    {columns : Metadata} (split : before ++ field :: after = document.fields)
    (fails : field.declaration.column = .error fault) : document.header.metadata ≠ .ok columns := by
  intro resolves
  have member : field ∈ document.fields := by simp [← split]
  rcases (header_resolved resolves).2 field member with ⟨column, resolved⟩
  cases fails.symm.trans resolved

theorem Outcome.unique (outcome : document.Outcome label dbName quota store result after)
    (again : document.Outcome label dbName quota store result' after') :
    result = result' ∧ after = after' := by
  have misfit {field : Field} {fault : SchemaFault}
      (fails : field.declaration.column = .error fault) :
      ¬∃ column, field.declaration.column = .ok column := by
    rintro ⟨column, resolved⟩
    cases fails.symm.trans resolved
  cases outcome with
  | hidden hides =>
      cases again with
      | hidden hides' =>
          cases hides.symm.trans hides'
          exact ⟨rfl, rfl⟩
      | unresolved shown | rows shown => cases hides.symm.trans shown
  | unresolved shown split fine fails =>
      cases again with
      | hidden hides => cases hides.symm.trans shown
      | unresolved _ split' fine' fails' =>
          rcases first_misfit_unique (fun field => ∃ column, field.declaration.column = .ok column)
            (split.trans split'.symm) fine (misfit fails) fine' (misfit fails') with ⟨rfl, rfl⟩
          cases fails.symm.trans fails'
          exact ⟨rfl, rfl⟩
      | rows _ resolves => exact absurd resolves (not_resolved split fails)
  | rows shown resolves outcome =>
      cases again with
      | hidden hides => cases hides.symm.trans shown
      | unresolved _ split _ fails => exact absurd resolves (not_resolved split fails)
      | rows _ resolves' outcome' =>
          cases resolves.symm.trans resolves'
          exact outcome.unique outcome'

end Document

namespace Loader

variable {loader : Loader} {limited : LimitedReader StreamReader} {store : Store}
  {reader : StreamReader} {rows : List Row} {fault : Option ParseFault}

theorem load_of_add_error {cause : UploadFault} {final : LimitedReader StreamReader}
    (adds : loader.store.add table limited = (.error cause, final, loader.store)) :
    (loader.load table limited).1 = .error cause ∧
      (loader.load table limited).2.store = loader.store := by
  simp [load, adds]

theorem load_of_add_ok {count : Nat} {final : LimitedReader StreamReader}
    (adds : loader.store.add table limited = (.ok count, final, store))
    (ended : final.inner.endReason = some .exhausted) :
    (loader.load table limited).1 = .ok { table with rows := count } ∧
      (loader.load table limited).2.store = store := by
  simp [load, adds, StreamReader.wasCancelled, ended]

theorem load_refused {taken others : List Row} {column : Column} {cell : Cell}
    {final : LimitedReader StreamReader}
    (within : ¬quota.Exceeded (quota.total ((taken ++ row :: others).map Row.byteSize)))
    (storable : ∀ row ∈ taken, row.Storable table.columns)
    (refused : row.RefusedAt table.columns column cell)
    (adds : loader.store.add table limited =
      (.error (Store.refusedCell table.label column cell), final, loader.store))
    (beyond : List Row) (fault : Option ParseFault) :
    RowsOutcome table quota loader.store (taken ++ row :: others ++ beyond) fault
      (loader.load table limited).1 (loader.load table limited).2.store := by
  rcases load_of_add_error adds with ⟨answer, stays⟩
  rw [answer, stays, List.append_assoc, List.cons_append]
  have before : ¬quota.Exceeded (quota.total (taken.map Row.byteSize)) := within_initial within
  rw [List.append_cons] at within
  exact .stopped rfl ⟨before, storable⟩ (.refused (within_initial within) refused)

theorem load_outcome (ready : reader.Ready table.columns rows fault)
    (widths : ∀ row ∈ rows, row.length = table.columns.length)
    (beside : limited.Beside quota [] reader) (before : limited.exceeded = false)
    (absent : loader.store.table? table.dbName = none) :
    RowsOutcome table quota loader.store rows fault (loader.load table limited).1
      (loader.load table limited).2.store := by
  have bound : rows.length ≤ TableReader.remaining limited := by
    rcases ready.owes with ⟨metadata, owes⟩
    simp only [TableReader.remaining, beside.inner before]
    exact owes.producer.length_le
  rcases ready.serves widths with ⟨last, serves, exhausted⟩
  -- The store looks at the cells of just the rows that the quota lets through.
  rcases beside.serves before serves with
    ⟨within, final, served, same⟩ | ⟨fitting, row, beyond, final, split, within, exceeded, served⟩
  · rcases Store.add_cases served absent bound widths with
      ⟨taken, row, others, column, cell, final, rfl, storable, refused, adds⟩ | ⟨storable, adds⟩
    · have outcome := load_refused within storable refused adds [] fault
      rwa [List.append_nil] at outcome
    · have admits : Admits quota table.columns rows := ⟨within, storable⟩
      cases fault with
      | none =>
          rcases adds with ⟨stored, adds, records⟩
          have reason : final.inner.endReason = some .exhausted := by rw [same, exhausted rfl]
          rcases load_of_add_ok adds reason with ⟨answer, inserted⟩
          rw [answer, inserted]
          exact .stored admits rfl records
      | some cause =>
          rcases load_of_add_error adds with ⟨answer, stays⟩
          rw [answer, stays]
          exact .failed admits rfl
  · subst split
    have fewer : fitting.length ≤ TableReader.remaining limited := by
      rw [List.length_append] at bound
      omega
    have narrower : ∀ row ∈ fitting, row.length = table.columns.length := fun other member =>
      widths other (List.mem_append_left _ member)
    rcases Store.add_cases served absent fewer narrower with
      ⟨taken, first, others, column, cell, final, rfl, storable, refused, adds⟩ | ⟨storable, adds⟩
    · exact load_refused within storable refused adds (row :: beyond) fault
    · rcases load_of_add_error adds with ⟨answer, stays⟩
      rw [answer, stays]
      exact .stopped rfl ⟨within, storable⟩ (.exceeded exceeded)

variable {arrival : Arrival} {document : Document}

theorem uploadOne_of_metadata_error (starts : loader.start arrival = .ok (.limit reader quota))
    {refusal : ReadFault} (refuses : reader.metadata.1 = .error refusal) :
    (loader.uploadOne arrival).1 = .error (.reading arrival.upload.label refusal) ∧
      (loader.uploadOne arrival).2.store = loader.store := by
  unfold uploadOne
  rw [starts]
  simp [TableReader.metadata, LimitedReader.limit, refuses]

theorem uploadOne_of_metadata_ok (starts : loader.start arrival = .ok (.limit reader quota))
    {columns : Metadata} (resolves : reader.metadata.1 = .ok columns) :
    loader.uploadOne arrival =
      loader.load
        { label := arrival.upload.label
          dbName := databaseName arrival.upload.label arrival.moment
          columns := columns }
        { LimitedReader.limit reader quota with inner := reader.metadata.2 } := by
  unfold uploadOne
  rw [starts]
  simp [TableReader.metadata, LimitedReader.limit, resolves]

theorem uploadOne_outcome (regular : document.Regular)
    (opens : arrival.upload.source loader.files = .ok (.document document))
    (format : loader.registry.get loader.settings.format = .ok .documents)
    (patient : loader.settings.isImpatient = false) (uncancelled : Uncancelled arrival.schedule)
    (absent :
      loader.store.table? (databaseName arrival.upload.label arrival.moment) = none) :
    document.Outcome arrival.upload.label (databaseName arrival.upload.label arrival.moment)
      loader.settings.quota loader.store (loader.uploadOne arrival).1
      (loader.uploadOne arrival).2.store := by
  have starts : loader.start arrival =
      .ok (.limit (.scheduled document.steps false arrival.schedule) loader.settings.quota) := by
    simp only [start, opens, format, patient]
    rfl
  have fresh {account : Account} (tells : Tells document.steps account) :
      (StreamReader.scheduled document.steps false arrival.schedule).Fresh account :=
    ⟨.start tells uncancelled, rfl, rfl, nofun⟩
  cases hides : document.hidden? with
  | some fault =>
      rcases (fresh (Document.tells_of_hidden hides)).metadata with ⟨refuses, _, _⟩
      rcases uploadOne_of_metadata_error starts refuses with ⟨answer, stays⟩
      rw [answer, stays]
      exact .hidden hides
  | none =>
      rcases (fresh (Document.tells regular hides)).metadata with ⟨told, next, known⟩
      cases resolves : document.header.metadata with
      | error fault =>
          have refuses : Account.metadata ⟨some document.header, document.rows, document.end?⟩ =
              .error (.schema fault) := by
            rw [Account.metadata_of_header, resolves]
            rfl
          rw [refuses] at told
          rcases uploadOne_of_metadata_error starts told with ⟨answer, stays⟩
          rcases Document.header_unresolved resolves with ⟨before, field, after, split, fine, fails⟩
          rw [answer, stays]
          exact .unresolved hides split.symm fine fails
      | ok columns =>
          have gives : Account.metadata ⟨some document.header, document.rows, document.end?⟩ =
              .ok columns := by
            rw [Account.metadata_of_header, resolves]
            rfl
          rw [gives] at told
          have widths : ∀ row ∈ document.rows, row.length = columns.length := by
            intro row member
            rw [Document.length_of_mem_rows regular member, (Document.header_resolved resolves).1]
          have ready : StreamReader.Ready _ columns document.rows document.end? :=
            ⟨known columns gives, by rw [next.cursor], _, next.owes⟩
          have beside := LimitedReader.Beside.limit loader.settings.quota
            (StreamReader.scheduled document.steps false arrival.schedule)
          rw [uploadOne_of_metadata_ok starts told]
          exact .rows hides resolves
            (load_outcome ready widths (beside.keep _ fun _ => rfl) rfl absent)

theorem standard_documents :
    Registry.standard.get TableParser.documentFormat = .ok .documents := by
  rfl

/-- What becomes of a document that nobody cancels, and that comes under a new name, is its outcome
and nothing else, however its parser and the reader take turns. -/
theorem uploadOne_outcome_iff (regular : document.Regular)
    (opens : arrival.upload.source loader.files = .ok (.document document))
    (format : loader.registry.get loader.settings.format = .ok .documents)
    (patient : loader.settings.isImpatient = false) (uncancelled : Uncancelled arrival.schedule)
    (absent :
      loader.store.table? (databaseName arrival.upload.label arrival.moment) = none)
    (result : Except UploadFault UploadedTable) (after : Store) :
    document.Outcome arrival.upload.label (databaseName arrival.upload.label arrival.moment)
        loader.settings.quota loader.store result after ↔
      (loader.uploadOne arrival).1 = result ∧ (loader.uploadOne arrival).2.store = after := by
  have outcome := uploadOne_outcome regular opens format patient uncancelled absent
  constructor
  · exact outcome.unique
  · rintro ⟨rfl, rfl⟩
    exact outcome

theorem uploadOne_outcome_of_two_rows :
    let document : Document :=
      { fields := [{ name := "id", type := .int32 }, { name := "name", type := .utf8 }]
        batches := [{ columns := [[.whole 1, .whole 2], [.text "Vega", .null]], rows := 2 }] }
    let arrival : Arrival :=
      { upload := { label := "stars", origin := .given (.document document) }
        schedule := [⟨[.parse, .parse], false⟩, ⟨[], false⟩] }
    let loader : Loader := { settings := { limit := { unit := .rows, limit := some 2 } } }
    let result := loader.uploadOne arrival
    document.Regular ∧ arrival.upload.source loader.files = .ok (.document document) ∧
      loader.registry.get loader.settings.format = .ok .documents ∧
      loader.settings.isImpatient = false ∧ Uncancelled arrival.schedule ∧
      loader.store.table? (databaseName "stars" 0) = none ∧
      result.1.toOption.map (·.rows) = some 2 ∧
      document.Outcome "stars" (databaseName "stars" 0) ⟨.rows, 2⟩ {} result.1 result.2.store := by
  intro document arrival loader result
  have regular : document.Regular := ⟨by simp [document], by simp [document]⟩
  have uncancelled : Uncancelled arrival.schedule := by simp [Uncancelled, arrival]
  have format : loader.registry.get loader.settings.format = .ok .documents := standard_documents
  have loads : result.1.toOption.map (·.rows) = some 2 := by
    unfold result loader arrival document
    rfl
  refine ⟨regular, rfl, format, rfl, uncancelled, rfl, loads, ?_⟩
  exact (uploadOne_outcome_iff regular rfl format rfl uncancelled rfl result.1 result.2.store).mpr
    ⟨rfl, rfl⟩

/-- Nothing is cut, the declared type resolves, nothing is limited, and every column has a place for
null. The rows cannot be read all the same: nobody knows the offset of the zone in the type. -/
theorem not_stored_of_unknown_zone :
    let document : Document :=
      { fields := [{ name := "x", type := .timestamp .millisecond (some ⟨"UTC"⟩) }]
        batches := [{ columns := [[.null]], rows := 1 }] }
    let columns : Metadata :=
      [⟨"x", .plain .timestamp, none, none, none, none, false, false, false⟩]
    let arrival : Arrival := { upload := { label := "t", origin := .given (.document document) } }
    let loader : Loader := { settings := {} }
    document.Regular ∧ document.isCut = false ∧ loader.settings.quota = .unlimited ∧
      loader.settings.isImpatient = false ∧ Uncancelled arrival.schedule ∧
      loader.store.table? (databaseName "t" 0) = none ∧
      document.header.metadata = .ok columns ∧ Admits .unlimited columns [[.null]] ∧
      Admits .unlimited columns document.rows ∧
      (loader.uploadOne arrival).1 =
        .error (.unreadable "t" (.parse (.arrow (.parser ("Invalid timezone \"UTC\": " ++
          "only offset based timezones supported without chrono-tz feature"))))) := by
  intro document columns arrival loader
  have regular : document.Regular := ⟨by simp [document], by simp [document]⟩
  have unlimited (total : Nat) : ¬Quota.unlimited.Exceeded total := fun exceeded =>
    exceeded.1 rfl
  have storable : Row.Storable columns [.null] := by
    intro entry member
    obtain rfl : entry = (columns.head nofun, .null) := by simpa [columns] using member
    exact ⟨.null, .null⟩
  have admits : Admits .unlimited columns [[.null]] := ⟨unlimited _, by simpa using storable⟩
  have none : document.rows = [] := by
    unfold document
    rfl
  have fails : (loader.uploadOne arrival).1 =
      .error (.unreadable "t" (.parse (.arrow (.parser ("Invalid timezone \"UTC\": " ++
        "only offset based timezones supported without chrono-tz feature"))))) := by
    unfold loader arrival document
    rfl
  refine ⟨regular, rfl, rfl, rfl, nofun, rfl, ?_, admits, ?_, fails⟩
  · unfold document
    rfl
  · rw [none]
    exact ⟨unlimited _, nofun⟩

end Loader

end TableIntake

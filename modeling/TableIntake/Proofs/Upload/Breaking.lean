import TableIntake.Proofs.Reader.Ending
import TableIntake.Proofs.Reader.Keeping
import TableIntake.Proofs.Store.Refusing
import TableIntake.Proofs.Stream.Breaking
import TableIntake.Proofs.Upload.Registration

/-! # Uploads that break off

Nobody who reads from a parser that breaks off is told that its rows are at their end, and its table
is not registered.
-/

namespace TableIntake

open Handoff TableReader

/-! ## Readers -/

namespace StreamReader

variable {reader : StreamReader}

structure Hopeless (reader : StreamReader) : Prop where
  doomed : reader.Meets Producer.Doomed
  truthful : reader.Truthful

namespace Hopeless

theorem scheduled {steps : List ParserStep} (doomed : (Producer.running steps).Doomed {})
    (impatient : Bool) (schedule : List Turn) :
    (StreamReader.scheduled steps impatient schedule).Hopeless where
  doomed := doomed
  truthful := .scheduled steps impatient schedule

theorem call (hopeless : reader.Hopeless) (call : ReaderCall) :
    (TableReader.call call reader).2.Hopeless where
  doomed := hopeless.doomed.call Producer.Doomed.stable call
  truthful := hopeless.truthful.call call

theorem answers (hopeless : reader.Hopeless) (calls : List ReaderCall) :
    (TableReader.answers calls reader).2.Hopeless where
  doomed := hopeless.doomed.answers Producer.Doomed.stable calls
  truthful := hopeless.truthful.answers calls

theorem not_exhausted (hopeless : reader.Hopeless) : reader.endReason ≠ some .exhausted := by
  intro exhausted
  exact hopeless.doomed.phase_ne_ended (hopeless.truthful.spent exhausted).ended

theorem wasCancelled (hopeless : reader.Hopeless) {reason : EndReason}
    (ends : reader.endReason = some reason) : reader.wasCancelled = true := by
  cases reason with
  | exhausted => exact absurd ends hopeless.not_exhausted
  | cancelled => simp [StreamReader.wasCancelled, ends]

end Hopeless

end StreamReader

/-! ## Stores -/

namespace Store

variable {ρ : Type} [TableReader ρ] {Holds : ρ → Prop} {label : String} {columns : Metadata}
  {reader last : ρ}

theorem appendRows_ok
    (column : ∀ {reader}, Holds reader →
      Holds (nextColumn reader).2 ∧ remaining (nextColumn reader).2 = remaining reader)
    (row : ∀ {reader next}, Holds reader → nextRow reader = (.ok true, next) →
      Holds next ∧ remaining next < remaining reader)
    {fuel count : Nat} {builders : List ColumnBuilder} {result : List ColumnBuilder × Nat}
    (holds : Holds reader) (enough : remaining reader < fuel)
    (appends : appendRows label columns fuel count builders reader = (.ok result, last)) :
    ∃ standing, Holds standing ∧ nextRow standing = (.ok false, last) := by
  induction fuel generalizing count builders reader with
  | zero => exact absurd enough (Nat.not_lt_zero _)
  | succ fuel induction =>
      unfold appendRows at appends
      split at appends
      · cases appends
      next told =>
        cases appends
        exact ⟨reader, holds, told⟩
      next next told =>
        rcases row holds told with ⟨holds, fewer⟩
        let Keeps (other : ρ) := Holds other ∧ remaining other = remaining next
        have keeps {other : ρ} (kept : Keeps other) : Keeps (nextColumn other).2 :=
          ⟨(column kept.1).1, (column kept.1).2.trans kept.2⟩
        have start : Keeps next := ⟨holds, rfl⟩
        have kept := appendRow_keeps label columns builders keeps start
        split at appends
        · cases appends
        next builders standing appended =>
          rw [appended] at kept
          rcases kept with ⟨holds, same⟩
          have enough : remaining standing < fuel := by
            rw [same]
            omega
          exact induction holds enough appends

end Store

/-! ## Loaders -/

namespace LimitedReader

variable {limited next : LimitedReader StreamReader}

structure Hopeless (limited : LimitedReader StreamReader) : Prop where
  inner : limited.inner.Hopeless
  lasts : limited.inner.cursor.ended = false

namespace Hopeless

theorem limit {reader : StreamReader} (hopeless : reader.Hopeless)
    (lasts : reader.cursor.ended = false) (quota : Quota) :
    (LimitedReader.limit reader quota).Hopeless :=
  ⟨hopeless, lasts⟩

theorem metadata (hopeless : limited.Hopeless) : (TableReader.metadata limited).2.Hopeless where
  inner := hopeless.inner.call .metadata
  lasts := (congrArg Cursor.ended (StreamReader.metadata_cursor limited.inner)).trans hopeless.lasts

theorem nextColumn (hopeless : limited.Hopeless) :
    (TableReader.nextColumn limited).2.Hopeless ∧
      remaining (TableReader.nextColumn limited).2 = remaining limited := by
  simp only [TableReader.nextColumn]
  split
  · exact ⟨hopeless, rfl⟩
  · refine ⟨⟨hopeless.inner.call .nextColumn, ?_⟩, rfl⟩
    have stays := limited.inner.cursor.next_place limited.inner.columns.length
    exact stays.2.trans hopeless.lasts

theorem nextRow (hopeless : limited.Hopeless)
    (moves : TableReader.nextRow limited = (.ok true, next)) :
    next.Hopeless ∧ remaining next < remaining limited := by
  have bare := inner_nextRow moves
  have later := hopeless.inner.call .nextRow
  simp only [TableReader.call, TableReader.nextRow, bare] at later
  cases StreamReader.nextRow_moved hopeless.lasts bare with
  | row lasts fewer => exact ⟨⟨later, lasts⟩, fewer⟩

theorem wasCancelled (hopeless : limited.Hopeless)
    (moves : TableReader.nextRow limited = (.ok false, next)) : next.inner.wasCancelled = true := by
  have bare := inner_nextRow moves
  have later := hopeless.inner.call .nextRow
  simp only [TableReader.call, TableReader.nextRow, bare] at later
  cases StreamReader.nextRow_moved hopeless.lasts bare with
  | ended ends => exact later.wasCancelled ends

end Hopeless

end LimitedReader

namespace Store

theorem add_hopeless {table : UploadedTable} {store after : Store} {rows : Nat}
    {limited last : LimitedReader StreamReader} (hopeless : limited.Hopeless)
    (adds : store.add table limited = (.ok rows, last, after)) :
    last.inner.wasCancelled = true := by
  have added := add_added table limited store
  rw [adds] at added
  cases added with
  | stored _ appends =>
      have ends := appendRows_ok LimitedReader.Hopeless.nextColumn LimitedReader.Hopeless.nextRow
        hopeless (Nat.lt_succ_self _) appends
      rcases ends with ⟨standing, hopeless, finished⟩
      exact hopeless.wasCancelled finished

end Store

namespace Loader

variable {loader : Loader} {arrival : Arrival} {steps : List ParserStep}

theorem load_hopeless {limited : LimitedReader StreamReader} (hopeless : limited.Hopeless)
    (table : UploadedTable) : ∃ fault, (loader.load table limited).1 = .error fault := by
  have read := load_read table limited loader
  generalize loader.load table limited = result at read ⊢
  cases read with
  | refused | interrupted => exact ⟨_, rfl⟩
  | stored adds goesOn => cases goesOn.symm.trans (Store.add_hopeless hopeless adds)

theorem uploadOne_hopeless (doomed : (Producer.running steps).Doomed {}) {source : Source}
    {parser : TableParser} (opens : arrival.upload.source loader.files = .ok source)
    (format : loader.registry.get loader.settings.format = .ok parser)
    (parses : parser.steps source = steps) :
    ∃ fault, (loader.uploadOne arrival).1 = .error fault := by
  have fresh : (StreamReader.scheduled steps loader.settings.isImpatient
      arrival.schedule).Hopeless := .scheduled doomed _ _
  have starts : loader.start arrival =
      .ok (.limit (.scheduled steps loader.settings.isImpatient arrival.schedule)
        loader.settings.quota) := by
    simp only [start, opens, format, parses]
    rfl
  have known := (LimitedReader.Hopeless.limit fresh rfl loader.settings.quota).metadata
  have tried := uploadOne_tried arrival loader
  generalize loader.uploadOne arrival = result at tried ⊢
  cases tried with
  | unopened | unread => exact ⟨_, rfl⟩
  | read starts' told =>
      cases starts.symm.trans starts'
      rw [told] at known
      exact load_hopeless known _

theorem upload_hopeless (doomed : (Producer.running steps).Doomed {}) {source : Source}
    {parser : TableParser} (opens : arrival.upload.source loader.files = .ok source)
    (format : loader.registry.get loader.settings.format = .ok parser)
    (parses : parser.steps source = steps) (rest : List Arrival) :
    ∃ fault after, loader.upload (arrival :: rest) = (some fault, after) ∧
      loader.Unchanged after := by
  rcases uploadOne_hopeless doomed opens format parses with ⟨fault, fails⟩
  have uploads : loader.uploadOne arrival = (.error fault, (loader.uploadOne arrival).2) :=
    Prod.ext fails rfl
  refine ⟨fault, _, ?_, uploadOne_error uploads⟩
  rw [upload, uploads]

end Loader

/-- A parser that leaves with a fault or in a panic before the end of its rows has the normal end
told to somebody just if it leaves as if it were told to stop, while its stream goes on. Otherwise
no reader is told of a normal end, and the table is not registered. -/
theorem Course.ended_iff_stopsUntold {steps : List ParserStep} {calls : List Session.Call}
    {events : List Event} {last next : Producer} {met after : Handoff}
    (course : Course (.running steps) {} calls events last met)
    (uncancelled : ∀ event ∈ events, event.cancels = false) (goesOn : met.phase ≠ .ended)
    (departs : last.Departs met next after) (broken : last.parting ≠ .returned) :
    ((∃ calls events last final, Course (.running steps) {} calls events last final ∧
        (∀ event ∈ events, event.cancels = false) ∧ TellsEnd events) ↔ last.StopsUntold met) ∧
      (¬last.StopsUntold met →
        (∀ calls events last final, Course (.running steps) {} calls events last final →
          ¬TellsEnd events) ∧
        (∀ impatient schedule readerCalls,
          (answers readerCalls (StreamReader.scheduled steps impatient schedule)).2.endReason ≠
            some .exhausted) ∧
        ∀ (loader : Loader) (arrival : Arrival) (source : Source) (parser : TableParser)
            (rest : List Arrival),
          arrival.upload.source loader.files = .ok source →
          loader.registry.get loader.settings.format = .ok parser →
          parser.steps source = steps →
          ∃ fault after, loader.upload (arrival :: rest) = (some fault, after) ∧
            loader.Unchanged after) := by
  have doomed := course.doomed uncancelled goesOn departs broken
  refine ⟨⟨?_, ?_⟩, ?_⟩
  · rintro ⟨_, _, _, _, told, _, ended⟩
    apply Classical.byContradiction
    intro honest
    exact told.not_tellsEnd (doomed honest) ended
  · exact course.ends_of_stopsUntold uncancelled
  · intro honest
    refine ⟨?_, ?_, ?_⟩
    · intro _ _ _ _ other
      exact other.not_tellsEnd (doomed honest)
    · intro impatient schedule readerCalls
      exact ((StreamReader.Hopeless.scheduled (doomed honest) impatient schedule).answers
        readerCalls).not_exhausted
    · intro loader arrival source parser rest opens format parses
      exact Loader.upload_hopeless (doomed honest) opens format parses rest

def oneRowThen (fault : ParseFault) : List ParserStep :=
  [.metadata [{ name := "id", datatype := some "int" }], .row [.int 1], .fail fault]

theorem oneRowThen_course (fault : ParseFault) :
    ∃ calls met, Course (.running (oneRowThen fault)) {} calls [] (.running [.fail fault]) met ∧
      met.phase = .streaming :=
  ⟨_, _, .parse rfl (.parse rfl (.nil _ _)), rfl⟩

theorem departs_of_fail (fault : ParseFault) (met : Handoff) :
    Producer.Departs (.running [.fail fault]) met .settled (Producer.report fault met) :=
  ⟨rfl, rfl, rfl⟩

theorem ended_iff_stopsUntold_of_cut :
    let steps := oneRowThen (.format "cut")
    ∃ calls met, Course (.running steps) {} calls [] (.running [.fail (.format "cut")]) met ∧
      met.phase ≠ .ended ∧ ¬Producer.StopsUntold (.running [.fail (.format "cut")]) met ∧
      (∀ calls events last final, Course (.running steps) {} calls events last final →
        ¬Course.TellsEnd events) ∧
      (answers [.nextRow, .nextRow] (StreamReader.scheduled steps false [])).2.endReason =
        none := by
  intro steps
  rcases oneRowThen_course (.format "cut") with ⟨calls, met, course, streaming⟩
  have goesOn : met.phase ≠ .ended := by simp [streaming]
  have broken : Producer.parting (.running [.fail (.format "cut")]) ≠ .returned := nofun
  have honest : ¬Producer.StopsUntold (.running [.fail (.format "cut")]) met := by
    rintro ⟨⟨rest, same⟩, _⟩
    cases same
  have settled := Course.ended_iff_stopsUntold course (List.forall_mem_nil _) goesOn
    (departs_of_fail _ met) broken
  exact ⟨calls, met, course, goesOn, honest, (settled.2 honest).1, rfl⟩

/-- A parser that says that it was told to stop, when nobody has told it, leaves a table with the
rows that came before. -/
theorem table_of_untold_stop :
    let steps := oneRowThen .aborted
    let arrival : Arrival := { upload := { label := "t", origin := .given (.script steps) } }
    let loader : Loader :=
      { settings := { format := "script" }, registry := Registry.register (.scripts "script") {} }
    (∃ calls met, Course (.running steps) {} calls [] (.running [.fail .aborted]) met ∧
      met.phase = .streaming) ∧
      Producer.parting (.running [.fail .aborted]) = .fault .aborted ∧
      (answers [.nextRow, .nextRow] (StreamReader.scheduled steps false [])).2.endReason =
        some .exhausted ∧
      (loader.upload [arrival]).1 = none ∧
      (loader.upload [arrival]).2.catalogue.tables.map (fun table => (table.label, table.rows)) =
        [("t", 1)] :=
  ⟨oneRowThen_course .aborted, rfl, rfl, rfl, rfl⟩

end TableIntake

import TableIntake.Reader.Calls
import TableIntake.Reader.Streaming

/-! # Steps of readers

What a call to the reader of a stream comes to, by what it is told there. What every call keeps,
a history of calls keeps.
-/

namespace TableIntake

theorem TableReader.answers_keep {ρ : Type} [TableReader ρ] {Holds : ρ → Prop}
    (kept : ∀ reader next, Holds reader → Holds (call next reader).2) {reader : ρ}
    (holds : Holds reader) (calls : List ReaderCall) : Holds (answers calls reader).2 := by
  induction calls generalizing reader with
  | nil => exact holds
  | cons next rest induction => exact induction (kept reader next holds)

namespace StreamReader

variable {reader : StreamReader}

theorem columns_of_known {columns : Metadata} (known : reader.known = some columns) :
    reader.columns = columns := by
  rw [StreamReader.columns, known, Option.getD_some]

theorem metadata_unknown (unknown : reader.known = none) :
    reader.metadata.1 = reader.stream.metadata.1.map (·.getD []) ∧
      reader.metadata.2.stream = reader.stream.metadata.2 ∧
      reader.metadata.2.cursor = reader.cursor ∧
      reader.metadata.2.rowsRead = reader.rowsRead ∧
      reader.metadata.2.known = reader.metadata.1.toOption := by
  simp only [StreamReader.metadata, unknown]
  rcases reader.stream.metadata with ⟨answer, stream⟩
  cases answer with
  | error fault => exact ⟨rfl, rfl, rfl, rfl, rfl⟩
  | ok columns => cases columns <;> exact ⟨rfl, rfl, rfl, rfl, rfl⟩

inductive Learned (reader : StreamReader) : Except ReadFault Metadata × StreamReader → Prop
  | known {columns : Metadata} :
      reader.known = some columns → Learned reader (.ok columns, reader)
  | refused {fault : ReadFault} :
      reader.known = none → reader.stream.metadata.1 = .error fault →
      Learned reader (.error fault, { reader with stream := reader.stream.metadata.2 })
  | told {columns : Metadata} :
      reader.known = none → reader.stream.metadata.1 = .ok (some columns) →
      Learned reader
        (.ok columns, { reader with stream := reader.stream.metadata.2, known := some columns })
  | bare {reason : EndReason} :
      reader.known = none → reader.stream.metadata.1 = .ok none →
      (reason = if reader.stream.metadata.2.handoff.isCancelled then .cancelled else .exhausted) →
      Learned reader
        (.ok [],
          { reader with
            stream := reader.stream.metadata.2
            known := some []
            endReason := some reason })

theorem metadata_learned (reader : StreamReader) : reader.Learned reader.metadata := by
  rcases reader with ⟨stream, cursor, known, rowsRead, reason⟩
  cases known with
  | some columns => exact .known rfl
  | none =>
      simp only [StreamReader.metadata]
      rcases told : stream.metadata with ⟨answer, next⟩
      have same : stream.metadata.2 = next := by rw [told]
      subst same
      cases answer with
      | error fault => exact .refused rfl (by rw [told])
      | ok columns =>
          cases columns with
          | none => exact .bare rfl (by rw [told]) rfl
          | some columns => exact .told rfl (by rw [told])

theorem fetchRow_fits {row : Row} (told : reader.stream.fetch.1 = .ok (.row row))
    (fits : row.length = reader.columns.length) :
    reader.fetchRow =
      (.ok true,
        { reader with
          stream := reader.stream.fetch.2
          rowsRead := reader.rowsRead + 1
          cursor := reader.cursor.load row }) := by
  simp only [fetchRow, told]
  exact if_pos fits

theorem fetchRow_misfit {row : Row} (told : reader.stream.fetch.1 = .ok (.row row))
    (misfit : row.length ≠ reader.columns.length) :
    reader.fetchRow =
      (.error (wrongWidth (reader.rowsRead + 1) row.length reader.columns.length),
        { reader with stream := reader.stream.fetch.2 }.close) := by
  simp only [fetchRow, told]
  exact if_neg misfit

theorem fetchRow_ended (told : reader.stream.fetch.1 = .ok .ended) :
    reader.fetchRow =
      (.ok false, { reader with stream := reader.stream.fetch.2 }.finish .exhausted) := by
  simp only [StreamReader.fetchRow, told]

theorem fetchRow_cancelled (told : reader.stream.fetch.1 = .ok .cancelled) :
    reader.fetchRow =
      (.ok false, { reader with stream := reader.stream.fetch.2 }.finish .cancelled) := by
  simp only [StreamReader.fetchRow, told]

theorem fetchRow_error {fault : ReadFault} (told : reader.stream.fetch.1 = .error fault) :
    reader.fetchRow =
      (.error fault,
        { reader with stream := reader.stream.fetch.2, cursor := reader.cursor.finish }) := by
  simp only [StreamReader.fetchRow, told]

/-- All that fetching a row can come to. A row of the wrong width closes the table. -/
inductive Fetches (reader : StreamReader) : Except ReadFault Bool × StreamReader → Prop
  | row {row : Row} :
      reader.stream.fetch.1 = .ok (.row row) → row.length = reader.columns.length →
      Fetches reader
        (.ok true,
          { reader with
            stream := reader.stream.fetch.2
            rowsRead := reader.rowsRead + 1
            cursor := reader.cursor.load row })
  | misfit {row : Row} :
      reader.stream.fetch.1 = .ok (.row row) → row.length ≠ reader.columns.length →
      Fetches reader
        (.error (wrongWidth (reader.rowsRead + 1) row.length reader.columns.length),
          { reader with stream := reader.stream.fetch.2 }.close)
  | ended :
      reader.stream.fetch.1 = .ok .ended →
      Fetches reader (.ok false, { reader with stream := reader.stream.fetch.2 }.finish .exhausted)
  | cancelled :
      reader.stream.fetch.1 = .ok .cancelled →
      Fetches reader (.ok false, { reader with stream := reader.stream.fetch.2 }.finish .cancelled)
  | failed {fault : ReadFault} :
      reader.stream.fetch.1 = .error fault →
      Fetches reader
        (.error fault,
          { reader with stream := reader.stream.fetch.2, cursor := reader.cursor.finish })

theorem fetchRow_fetches (reader : StreamReader) : reader.Fetches reader.fetchRow := by
  cases told : reader.stream.fetch.1 with
  | error fault =>
      rw [fetchRow_error told]
      exact .failed told
  | ok fetched =>
      cases fetched with
      | ended =>
          rw [fetchRow_ended told]
          exact .ended told
      | cancelled =>
          rw [fetchRow_cancelled told]
          exact .cancelled told
      | row row =>
          by_cases fits : row.length = reader.columns.length
          · rw [fetchRow_fits told fits]
            exact .row told fits
          · rw [fetchRow_misfit told fits]
            exact .misfit told fits

/-- All that a call for a row can come to. The first one asks for the metadata. -/
inductive Advanced (reader : StreamReader) : Except ReadFault Bool × StreamReader → Prop
  | behind : reader.cursor.ended = true → Advanced reader (.ok false, reader)
  | further :
      reader.cursor.ended = false → reader.cursor.started = true →
      Advanced reader reader.fetchRow
  | refused {fault : ReadFault} :
      reader.cursor.ended = false → reader.cursor.started = false →
      reader.metadata.1 = .error fault → Advanced reader (.error fault, reader.metadata.2)
  | first {columns : Metadata} :
      reader.cursor.ended = false → reader.cursor.started = false →
      reader.metadata.1 = .ok columns →
      Advanced reader
        { reader.metadata.2 with cursor := reader.metadata.2.cursor.start }.fetchRow

theorem nextRow_advanced (reader : StreamReader) : reader.Advanced reader.nextRow := by
  simp only [nextRow]
  cases ended : reader.cursor.ended with
  | true => exact .behind ended
  | false =>
      cases started : reader.cursor.started with
      | true => exact .further ended started
      | false =>
          rcases told : reader.metadata with ⟨answer, next⟩
          have same : reader.metadata.2 = next := by rw [told]
          subst same
          cases answer with
          | error fault => exact .refused ended started (by rw [told])
          | ok columns => exact .first ended started (by rw [told])

end StreamReader

end TableIntake

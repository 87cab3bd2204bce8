import TableIntake.Proofs.Reader.Reading
import TableIntake.Reader.Memory

/-! # Readers alike

A table from a stream and the same table in memory answer every history of calls alike. The
one has to do with a producer in another thread and the other with a list, and they differ only
in what they can say of a table that was closed before anybody asked.
-/

namespace TableIntake

/-- Nobody asks for metadata for the first time after a table was closed unread. -/
def AskedInTime (calls : List ReaderCall) : Prop :=
  ∀ past rest, calls = past ++ .close :: rest →
    .metadata ∉ past → .nextRow ∉ past → .metadata ∉ rest

namespace AskedInTime

variable {next : ReaderCall} {rest : List ReaderCall}

theorem tail (inTime : AskedInTime (next :: rest)) (unasked : next ≠ .metadata)
    (unread : next ≠ .nextRow) : AskedInTime rest := by
  intro past later equal noMetadata noRow
  apply inTime (next :: past) later
  · rw [equal, List.cons_append]
  · simpa [unasked.symm] using noMetadata
  · simpa [unread.symm] using noRow

theorem of_head (asks : next = .metadata ∨ next = .nextRow) : AskedInTime (next :: rest) := by
  intro past later equal noMetadata noRow
  cases past with
  | nil => rcases asks with rfl | rfl <;> simp at equal
  | cons first past =>
      obtain ⟨rfl, -⟩ := List.cons.inj equal
      rcases asks with rfl | rfl
      · exact absurd (.head past) noMetadata
      · exact absurd (.head past) noRow

theorem not_mem_of_close (inTime : AskedInTime (.close :: rest)) : .metadata ∉ rest :=
  inTime [] rest rfl List.not_mem_nil List.not_mem_nil

end AskedInTime

namespace Cursor

variable {cursor : Cursor} {columns : Nat}

theorem hasNext_of_not_started (still : cursor.started = false) :
    cursor.hasNext columns = .error (.state "no row has yet been read") := by
  simp [hasNext, check, still, bind, Except.bind]

theorem next_cases (columns : Nat) (cursor : Cursor) :
    (cursor.next columns).2 = cursor ∨
      cursor.ended = false ∧
        (cursor.next columns).2 =
          { cursor with
            row := cursor.row.set cursor.column .null
            column := cursor.column + 1 } := by
  unfold next
  split
  · exact .inl rfl
  · exact .inl rfl
  next ahead =>
    split
    next =>
      refine .inr ⟨?_, rfl⟩
      cases behind : cursor.ended with
      | false => rfl
      | true => cases started : cursor.started <;>
          simp [hasNext, check, behind, started, bind, Except.bind] at ahead
    next => exact .inl rfl

end Cursor

namespace MemoryReader

variable {memory : MemoryReader} {row : Row} {rows : List Row}

theorem nextRow_of_ended (behind : memory.cursor.ended = true) :
    memory.nextRow = (.ok false, memory) := by
  rw [nextRow, if_pos behind]

theorem nextRow_nil (going : memory.cursor.ended = false) (ahead : memory.rows = []) :
    memory.nextRow = (.ok false, { memory with cursor := memory.cursor.start.finish }) := by
  rcases memory with ⟨columns, _, cursor⟩
  obtain rfl := ahead
  exact if_neg (Bool.eq_false_iff.mp going)

theorem nextRow_cons (going : memory.cursor.ended = false) (ahead : memory.rows = row :: rows)
    (fits : row.length = memory.columns.length) :
    memory.nextRow =
      (.ok true, { memory with rows := rows, cursor := memory.cursor.start.load row }) := by
  rcases memory with ⟨columns, _, cursor⟩
  obtain rfl := ahead
  exact (if_neg (Bool.eq_false_iff.mp going)).trans (if_pos fits)

theorem nextRow_misfit (going : memory.cursor.ended = false) (ahead : memory.rows = row :: rows)
    (misfit : row.length ≠ memory.columns.length) :
    memory.nextRow =
      (.error (wrongWidth row.length memory.columns.length),
        { memory with cursor := memory.cursor.start }.close) := by
  rcases memory with ⟨columns, _, cursor⟩
  obtain rfl := ahead
  exact (if_neg (Bool.eq_false_iff.mp going)).trans (if_neg misfit)

theorem nextRow_start (memory : MemoryReader) (going : memory.cursor.ended = false) :
    nextRow { memory with cursor := memory.cursor.start } = memory.nextRow := by
  have still : memory.cursor.start.ended = false := going
  rw [nextRow, nextRow, if_neg (Bool.eq_false_iff.mp still), if_neg (Bool.eq_false_iff.mp going)]
  rfl

end MemoryReader

namespace StreamReader

/-- A reader of a stream and one of a list at the same place of a table with these columns. -/
structure Alike (columns : Metadata) (reader : StreamReader) (memory : MemoryReader) : Prop where
  same : memory.columns = columns
  cursor : reader.cursor = memory.cursor
  known : reader.known = some columns ∨ reader.known = none ∧ memory.cursor.started = false
  fits : ∀ row ∈ memory.rows, row.length = columns.length
  owes : memory.cursor.ended = false → reader.stream.Owes ⟨.ready columns, memory.rows, none⟩
  behind : memory.cursor.ended = true → memory.cursor.finish = memory.cursor

/-- The reader of the stream can still give these columns, or is not going to be asked. -/
def CanTell (columns : Metadata) (reader : StreamReader) (calls : List ReaderCall) : Prop :=
  reader.known = some columns ∨ reader.cursor.ended = false ∧ AskedInTime calls ∨
    .metadata ∉ calls

theorem fetchRow_known (reader : StreamReader) : reader.fetchRow.2.known = reader.known := by
  have fetches := reader.fetchRow_fetches
  generalize reader.fetchRow = result at fetches ⊢
  cases fetches with
  | row | misfit | ended | cancelled | failed => rfl

namespace CanTell

variable {columns : Metadata} {reader : StreamReader} {next : ReaderCall}
  {rest : List ReaderCall}

theorem metadata (can : CanTell columns reader (.metadata :: rest)) :
    reader.known = some columns ∨ reader.cursor.ended = false := by
  rcases can with known | ⟨going, _⟩ | unasked
  · exact .inl known
  · exact .inr going
  · exact absurd (.head rest) unasked

theorem close (can : CanTell columns reader (.close :: rest)) :
    CanTell columns reader.close rest := by
  rcases can with known | ⟨_, inTime⟩ | unasked
  · exact .inl known
  · exact .inr (.inr inTime.not_mem_of_close)
  · exact .inr (.inr (List.not_mem_of_not_mem_cons unasked))

theorem tail (can : CanTell columns reader (next :: rest)) (unasked : next ≠ .metadata)
    (unread : next = .nextRow → reader.cursor.ended = true) : CanTell columns reader rest := by
  rcases can with known | ⟨going, inTime⟩ | never
  · exact .inl known
  · refine .inr (.inl ⟨going, inTime.tail unasked fun read => ?_⟩)
    simp [going] at unread
    exact unread read
  · exact .inr (.inr (List.not_mem_of_not_mem_cons never))

end CanTell

namespace Alike

variable {columns : Metadata} {reader : StreamReader} {memory : MemoryReader}

theorem start {header : Header} {rows : List Row} (resolves : header.metadata = .ok columns)
    {steps : List ParserStep} (tells : Tells steps ⟨some header, rows, none⟩)
    (fits : ∀ row ∈ rows, row.length = columns.length) {schedule : List Turn}
    (uncancelled : Uncancelled schedule) :
    Alike columns (scheduled steps false schedule) (.ofRows columns rows) where
  same := rfl
  cursor := rfl
  known := .inr ⟨rfl, rfl⟩
  fits := fits
  owes _ := by
    have prospect : Account.prospect ⟨some header, rows, none⟩ = ⟨.ready columns, rows, none⟩ := by
      simp [Account.prospect, MetadataSlot.ofHeader, resolves]
    have owes := Stream.Owes.start tells uncancelled
    rw [prospect] at owes
    exact owes
  behind := nofun

theorem metadata (alike : Alike columns reader memory)
    (can : reader.known = some columns ∨ reader.cursor.ended = false) :
    reader.metadata.1 = .ok columns ∧ Alike columns reader.metadata.2 memory ∧
      reader.metadata.2.known = some columns := by
  cases known : reader.known with
  | some others =>
      obtain rfl : others = columns := by simpa [known] using alike.known
      simp only [StreamReader.metadata, known]
      exact ⟨trivial, alike, trivial⟩
  | none =>
      have going : memory.cursor.ended = false := by simpa [known, alike.cursor] using can
      rcases (alike.owes going).metadata with ⟨told, owes⟩
      simp only [StreamReader.metadata, known]
      rcases asked : reader.stream.metadata with ⟨answer, stream⟩
      rw [asked] at told owes
      obtain rfl : answer = .ok (some columns) := told
      exact ⟨rfl, { alike with known := .inl rfl, owes := fun _ => owes }, rfl⟩

theorem fetchRow (alike : Alike columns reader memory) (known : reader.known = some columns)
    (started : memory.cursor.started = true) (going : memory.cursor.ended = false) :
    reader.fetchRow.1 = memory.nextRow.1 ∧ Alike columns reader.fetchRow.2 memory.nextRow.2 := by
  have begun := Cursor.start_of_started started
  rcases (alike.owes going).fetch with ⟨told, owes⟩
  cases ahead : memory.rows with
  | nil =>
      simp only [Prospect.next, ahead] at told
      rw [fetchRow_ended told, MemoryReader.nextRow_nil going ahead, begun]
      refine ⟨rfl, ?_⟩
      exact {
        same := alike.same
        cursor := by simp [finish, alike.cursor]
        known := .inl known
        fits := by simp [ahead]
        owes := fun still => by simp [Cursor.finish] at still
        behind := fun _ => rfl }
  | cons row rows =>
      simp only [Prospect.next, ahead] at told
      have fits : row.length = columns.length := alike.fits row (by simp [ahead])
      have wide : row.length = reader.columns.length := by rw [columns_of_known known, fits]
      have same : row.length = memory.columns.length := by rw [alike.same, fits]
      rw [fetchRow_fits told wide, MemoryReader.nextRow_cons going ahead same, begun]
      refine ⟨rfl, ?_⟩
      exact {
        same := alike.same
        cursor := by simp [alike.cursor]
        known := .inl known
        fits := fun other member => alike.fits other (by simp [ahead, member])
        owes := fun _ => by simpa [Prospect.rest, ahead] using owes
        behind := fun behind => by simp [Cursor.load, going] at behind }

theorem nextRow (alike : Alike columns reader memory) :
    reader.nextRow.1 = memory.nextRow.1 ∧ Alike columns reader.nextRow.2 memory.nextRow.2 ∧
      (reader.nextRow.2.known = some columns ∨
        reader.cursor.ended = true ∧ reader.nextRow.2 = reader) := by
  have advanced := reader.nextRow_advanced
  generalize reader.nextRow = result at advanced ⊢
  cases advanced with
  | behind ended =>
      have behind : memory.cursor.ended = true := alike.cursor ▸ ended
      rw [MemoryReader.nextRow_of_ended behind]
      exact ⟨rfl, alike, .inr ⟨ended, rfl⟩⟩
  | further going started =>
      rw [alike.cursor] at going started
      have known : reader.known = some columns := by simpa [started] using alike.known
      rcases alike.fetchRow known started going with ⟨answer, alike'⟩
      exact ⟨answer, alike', .inl ((fetchRow_known reader).trans known)⟩
  | refused going _ told =>
      rcases alike.metadata (.inr going) with ⟨answer, _⟩
      cases answer.symm.trans told
  | first going =>
      have lasts : memory.cursor.ended = false := alike.cursor ▸ going
      rcases alike.metadata (.inr going) with ⟨_, asked, known⟩
      -- Both cursors start here: the one of the stream before its row, the other with it.
      have begun : Alike columns
          { reader.metadata.2 with cursor := reader.metadata.2.cursor.start }
          { memory with cursor := memory.cursor.start } :=
        { asked with
          cursor := by simp [asked.cursor]
          known := .inl known
          behind := fun ended => by simp [Cursor.start, lasts] at ended }
      rcases begun.fetchRow known rfl lasts with ⟨answer, alike'⟩
      rw [memory.nextRow_start lasts] at answer alike'
      exact ⟨answer, alike', .inl ((fetchRow_known _).trans known)⟩

theorem knows (alike : Alike columns reader memory) :
    reader.columns = columns ∨ reader.cursor.started = false := by
  -- Before the first row a cursor pays no heed to the columns.
  rcases alike.known with known | ⟨_, still⟩
  · exact .inl (columns_of_known known)
  · exact .inr (alike.cursor ▸ still)

theorem hasNextColumn (alike : Alike columns reader memory) :
    TableReader.hasNextColumn reader = TableReader.hasNextColumn memory := by
  simp only [TableReader.hasNextColumn, ← alike.cursor, alike.same]
  rcases alike.knows with same | still
  · rw [same]
  · rw [Cursor.hasNext_of_not_started still, Cursor.hasNext_of_not_started still]

theorem columnType (alike : Alike columns reader memory) :
    TableReader.columnType reader = TableReader.columnType memory := by
  simp only [TableReader.columnType, ← alike.cursor, alike.same]
  rcases alike.knows with same | still
  · rw [same]
  · simp [Cursor.columnType, Cursor.check, still, bind, Except.bind]

theorem nextColumn (alike : Alike columns reader memory) :
    (TableReader.nextColumn reader).1 = (TableReader.nextColumn memory).1 ∧
      Alike columns (TableReader.nextColumn reader).2 (TableReader.nextColumn memory).2 ∧
      (TableReader.nextColumn reader).2.known = reader.known ∧
      (TableReader.nextColumn reader).2.cursor.ended = reader.cursor.ended := by
  have same : reader.cursor.next reader.columns.length =
      memory.cursor.next memory.columns.length := by
    rw [← alike.cursor, alike.same]
    rcases alike.knows with same | still
    · rw [same]
    · simp only [Cursor.next, Cursor.hasNext_of_not_started still]
  simp only [TableReader.nextColumn, same]
  refine ⟨trivial, ?_, trivial, ?_⟩
  · rcases memory.cursor.next_cases memory.columns.length with stays | ⟨going, moves⟩
    · rw [stays]
      exact { alike with cursor := rfl }
    · rw [moves]
      exact { alike with cursor := rfl, behind := fun behind => by simp [going] at behind }
  · rw [alike.cursor]
    rcases memory.cursor.next_cases memory.columns.length with stays | ⟨_, moves⟩
    · rw [stays]
    · rw [moves]

theorem close (alike : Alike columns reader memory) :
    Alike columns reader.close memory.close where
  same := alike.same
  cursor := by
    simp only [StreamReader.close, MemoryReader.close, alike.cursor]
    split
    next behind => exact (alike.behind behind).symm
    next => rfl
  known := alike.known
  fits := nofun
  owes := nofun
  behind _ := rfl

theorem call (alike : Alike columns reader memory) {next : ReaderCall} {rest : List ReaderCall}
    (can : CanTell columns reader (next :: rest)) :
    (TableReader.call next reader).1 = (TableReader.call next memory).1 ∧
      Alike columns (TableReader.call next reader).2 (TableReader.call next memory).2 ∧
      CanTell columns (TableReader.call next reader).2 rest := by
  cases next with
  | metadata =>
      rcases alike.metadata can.metadata with ⟨answer, alike', known⟩
      refine ⟨?_, alike', .inl known⟩
      simp only [TableReader.call, TableReader.metadata, answer, alike.same]
  | nextRow =>
      rcases alike.nextRow with ⟨answer, alike', known⟩
      refine ⟨congrArg (ReaderAnswer.ofExcept .truth) answer, alike', ?_⟩
      rcases known with known | ⟨behind, stays⟩
      · exact .inl known
      · have tail := can.tail (by simp) fun _ => behind
        rw [← stays] at tail
        exact tail
  | hasNextColumn =>
      exact ⟨congrArg (ReaderAnswer.ofExcept .truth) alike.hasNextColumn, alike,
        can.tail (by simp) (by simp)⟩
  | nextColumn =>
      rcases alike.nextColumn with ⟨answer, alike', known, ended⟩
      refine ⟨congrArg (ReaderAnswer.ofExcept .cell) answer, alike', ?_⟩
      have tail := can.tail (by simp) (by simp)
      unfold CanTell at tail
      rw [← known, ← ended] at tail
      exact tail
  | columnType =>
      exact ⟨congrArg (ReaderAnswer.ofExcept .type) alike.columnType, alike,
        can.tail (by simp) (by simp)⟩
  | rowByteSize =>
      exact ⟨congrArg (fun cursor : Cursor => ReaderAnswer.size cursor.rowSize) alike.cursor, alike,
        can.tail (by simp) (by simp)⟩
  | close => exact ⟨rfl, alike.close, can.close⟩

theorem answers (alike : Alike columns reader memory) {calls : List ReaderCall}
    (can : CanTell columns reader calls) :
    (TableReader.answers calls reader).1 = (TableReader.answers calls memory).1 := by
  induction calls generalizing reader memory with
  | nil => rfl
  | cons next rest induction =>
      rcases alike.call can with ⟨answer, alike, can⟩
      exact congr (congrArg List.cons answer) (induction alike can)

end Alike

/-- Whether the rows of a table come out of another thread or out of a list, every history of
calls has the same answers. -/
theorem answers_eq_memory {header : Header} {columns : Metadata} {rows : List Row}
    (resolves : header.metadata = .ok columns)
    (fits : ∀ row ∈ rows, row.length = columns.length)
    {steps : List ParserStep} (tells : Tells steps ⟨some header, rows, none⟩)
    {schedule : List Turn} (uncancelled : Uncancelled schedule)
    {calls : List ReaderCall} (inTime : AskedInTime calls) :
    (TableReader.answers calls (scheduled steps false schedule)).1 =
      (TableReader.answers calls (MemoryReader.ofRows columns rows)).1 :=
  (Alike.start resolves tells fits uncancelled).answers (.inr (.inl ⟨rfl, inTime⟩))

theorem answers_eq_memory_when_closed :
    let header : Header := [{ name := "id", datatype := some "int" }]
    let columns : Metadata := [⟨"id", .plain .integer, none, none, none, none, false, false, false⟩]
    let rows : List Row := [[.int 1], [.int 2]]
    let steps : List ParserStep := .metadata header :: rows.map .row ++ [.endRows]
    let schedule : List Turn := [⟨[.parse, .parse, .parse], false⟩, ⟨[], false⟩]
    let calls : List ReaderCall := [.nextRow, .nextColumn, .columnType, .close, .metadata, .nextRow]
    header.metadata = .ok columns ∧ (∀ row ∈ rows, row.length = columns.length) ∧
      Tells steps ⟨some header, rows, none⟩ ∧ Uncancelled schedule ∧ AskedInTime calls ∧
      (TableReader.answers calls (scheduled steps false schedule)).1 =
        (TableReader.answers calls (MemoryReader.ofRows columns rows)).1 := by
  intro header columns rows steps schedule calls
  have resolves : header.metadata = .ok columns := rfl
  have fits : ∀ row ∈ rows, row.length = columns.length := by simp [rows, columns]
  have tells : Tells steps ⟨some header, rows, none⟩ := .ofRows header (by simp [rows])
  have uncancelled : Uncancelled schedule := by simp [Uncancelled, schedule]
  have inTime : AskedInTime calls := .of_head (.inr rfl)
  exact ⟨resolves, fits, tells, uncancelled, inTime,
    answers_eq_memory resolves fits tells uncancelled inTime⟩

end StreamReader

end TableIntake

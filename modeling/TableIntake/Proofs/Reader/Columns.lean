import TableIntake.Proofs.Reader.Alike
import TableIntake.Proofs.Reader.Keeping

/-! # Columns of rows

A reader that stands at a row gives its cells one by one, and behind the last row it gives nothing
any more. A stream and a table in memory read their columns with the same cursor, so both follow
from what a cursor does and from where a call for a row can leave it.
-/

namespace TableIntake

open Handoff TableReader

/-- What is said when a cursor, its row and the columns do not go together. -/
def ReadFault.IsOutOfStep (fault : ReadFault) : Prop :=
  fault = .noSuchElement "row is shorter than its metadata" ∨
    fault = .state "all fields have already been read"

theorem ReaderAnswer.of_ofExcept {α : Type} (answer : α → ReaderAnswer) {fault : ReadFault}
    {result : Except ReadFault α} (faultless : ∀ value, answer value ≠ .fault fault)
    (refused : ofExcept answer result = .fault fault) : result = .error fault := by
  cases result with
  | ok value => exact absurd refused (faultless value)
  | error other =>
      cases refused
      rfl

namespace TableReader

variable {ρ : Type} [TableReader ρ]

/-- The reader has given the first `taken` cells of the row. -/
structure Standing (columns : Metadata) (row : Row) (taken : Nat) (reader : ρ) : Prop where
  metadata : (metadata reader).1 = .ok columns
  hasNextColumn : hasNextColumn reader = .ok (taken < row.length)
  nextColumn : (nextColumn reader).1 =
    match row[taken]? with
    | some cell => .ok cell
    | none => .error (.noSuchElement "no more field to read")
  columnType : columnType reader =
    match (columns.take taken).getLast? with
    | some column => .ok column.type
    | none => .error (.state "no field has yet been read")
  rowByteSize : rowByteSize reader = row.byteSize

structure Barred (reader : ρ) : Prop where
  hasNextColumn : ∃ message, hasNextColumn reader = .error (.state message)
  nextColumn : ∃ message, (nextColumn reader).1 = .error (.state message)
  columnType : ∃ message, columnType reader = .error (.state message)

structure Over (reader : ρ) : Prop extends Barred reader where
  nextRow : (nextRow reader).1 = .ok false

/-- The calls leave a reader at its row. -/
def Stay (calls : List ReaderCall) : Prop :=
  .nextRow ∉ calls ∧ .close ∉ calls

theorem Stay.of_cons {made : ReaderCall} {calls : List ReaderCall} (stay : Stay (made :: calls)) :
    made ≠ .nextRow ∧ made ≠ .close ∧ Stay calls := by
  simpa [Stay, and_assoc, and_left_comm, eq_comm] using stay

/-- Rows and columns come in order. `Obtains` says where a row comes from. -/
structure Orderly (Obtains : ρ → Row → ρ → Prop) (reader : ρ) : Prop where
  announced : ∀ calls, Stay calls → .nextColumn ∉ calls →
    (hasNextColumn reader = .ok true ↔
      ∃ cell, (nextColumn (answers calls reader).2).1 = .ok cell)
  inStep : ∀ next fault, (call next reader).1 = .fault fault → ¬fault.IsOutOfStep
  row : (nextRow reader).1 = .ok true →
    ∃ columns row, Obtains reader row (nextRow reader).2 ∧ row.length = columns.length ∧
      ∀ calls, Stay calls →
        Standing columns row (min (calls.count .nextColumn) row.length)
          (answers calls (nextRow reader).2).2
  /-- An answer that is no row, and no fault of the metadata, is the last one. -/
  ended : (nextRow reader).1 ≠ .ok true →
    (∀ fault, (nextRow reader).1 = .error fault → (metadata reader).1 ≠ .error fault) →
    ∀ calls, Over (answers calls (nextRow reader).2).2

end TableReader

/-! ## Cursors -/

namespace Cursor

variable {cursor : Cursor}

def Idle (cursor : Cursor) : Prop :=
  cursor.started = false ∨ cursor.ended = true

theorem Idle.check (idle : cursor.Idle) :
    ∃ message, cursor.check = .error (.state message) ∧
      ¬(ReadFault.state message).IsOutOfStep := by
  unfold Cursor.check
  cases started : cursor.started with
  | false => exact ⟨_, rfl, by simp [ReadFault.IsOutOfStep]⟩
  | true =>
      have ended : cursor.ended = true := by simpa [Idle, started] using idle
      rw [ended]
      exact ⟨_, rfl, by simp [ReadFault.IsOutOfStep]⟩

theorem hasNext_of_check {fault : ReadFault} (columns : Nat)
    (refuses : cursor.check = .error fault) : cursor.hasNext columns = .error fault := by
  simp [hasNext, refuses, bind, Except.bind]

theorem next_of_check {fault : ReadFault} (columns : Nat)
    (refuses : cursor.check = .error fault) : cursor.next columns = (.error fault, cursor) := by
  simp only [next, hasNext_of_check columns refuses]

theorem columnType_of_check {fault : ReadFault} (columns : Metadata)
    (refuses : cursor.check = .error fault) : cursor.columnType columns = .error fault := by
  simp [columnType, refuses, bind, Except.bind]

theorem hasNext_along (row : Row) (taken columns : Nat) :
    (along row taken).hasNext columns = .ok (taken < columns) :=
  rfl

theorem next_along {row : Row} {taken columns : Nat} (width : row.length = columns)
    (within : taken ≤ row.length) :
    (along row taken).next columns =
      (match row[taken]? with
        | some cell => .ok cell
        | none => .error (.noSuchElement "no more field to read"),
      along row (min (taken + 1) row.length)) := by
  cases here : row[taken]? with
  | some cell =>
      have before := (List.getElem?_eq_some_iff.mp here).1
      rw [next_of_getElem? here (by omega), Nat.min_eq_left before]
  | none =>
      have beyond := List.getElem?_eq_none_iff.mp here
      rw [next_of_le row (by omega), Nat.min_eq_right (by omega), Nat.le_antisymm within beyond]

theorem columnType_along {columns : Metadata} {row : Row} {taken : Nat}
    (width : row.length = columns.length) (within : taken ≤ row.length) :
    (along row taken).columnType columns =
      match (columns.take taken).getLast? with
      | some column => .ok column.type
      | none => .error (.state "no field has yet been read") := by
  cases taken with
  | zero => simp [columnType, bind, Except.bind]
  | succ before =>
      have bound : before < columns.length := by omega
      have last : (columns.take (before + 1)).getLast? = some columns[before] := by
        rw [List.getLast?_take]
        simp [bound]
      simp [columnType, last, bound, bind, Except.bind, pure, Except.pure]

end Cursor

/-! ## Readers with a cursor -/

/-- Where a cursor can be, and what is known of the columns there. -/
inductive Placed : Cursor → Option Metadata → Prop
  | idle {cursor : Cursor} {known : Option Metadata} : cursor.Idle → Placed cursor known
  | along {columns : Metadata} {row : Row} {taken : Nat} :
      row.length = columns.length → taken ≤ row.length → Placed (.along row taken) (some columns)

theorem Placed.idle_or_along {place : Cursor} {known : Option Metadata}
    (placed : Placed place known) :
    place.Idle ∨ ∃ (columns : Metadata) (row : Row) (taken : Nat), known = some columns ∧
      row.length = columns.length ∧ taken ≤ row.length ∧ place = .along row taken := by
  cases placed with
  | idle idle => exact .inl idle
  | along width within => exact .inr ⟨_, _, _, rfl, width, within, rfl⟩

section

variable {ρ : Type} [TableReader ρ] {cursor : ρ → Cursor} {known : ρ → Option Metadata}
  {Obtains : ρ → Row → ρ → Prop} {reader next : ρ}

/-- What becomes of a call for a row. -/
inductive RowCall (cursor : ρ → Cursor) (known : ρ → Option Metadata)
    (Obtains : ρ → Row → ρ → Prop) (reader : ρ) : Except ReadFault Bool → ρ → Prop
  | behind : (cursor reader).ended = true → RowCall cursor known Obtains reader (.ok false) reader
  | refused {fault : ReadFault} {next : ρ} :
      (cursor reader).ended = false → (metadata reader).1 = .error fault →
      (cursor next).started = false → RowCall cursor known Obtains reader (.error fault) next
  | row {columns : Metadata} {row : Row} {next : ρ} :
      (cursor reader).ended = false → row.length = columns.length → known next = some columns →
      cursor next = .along row 0 → Obtains reader row next →
      RowCall cursor known Obtains reader (.ok true) next
  | ended {answer : Except ReadFault Bool} {next : ρ} :
      (cursor reader).ended = false → answer ≠ .ok true →
      (∀ fault, answer = .error fault → ¬fault.IsOutOfStep) → (cursor next).ended = true →
      RowCall cursor known Obtains reader answer next

/-- The columns are read by a cursor. -/
structure ReadBy (cursor : ρ → Cursor) (known : ρ → Option Metadata)
    (Obtains : ρ → Row → ρ → Prop) : Prop where
  hasNextColumn_eq (reader : ρ) :
    hasNextColumn reader = (cursor reader).hasNext ((known reader).getD []).length
  nextColumn_answer (reader : ρ) :
    (nextColumn reader).1 = ((cursor reader).next ((known reader).getD []).length).1
  nextColumn_cursor (reader : ρ) :
    cursor (nextColumn reader).2 = ((cursor reader).next ((known reader).getD []).length).2
  nextColumn_known (reader : ρ) : known (nextColumn reader).2 = known reader
  columnType_eq (reader : ρ) :
    columnType reader = (cursor reader).columnType ((known reader).getD [])
  rowByteSize_eq (reader : ρ) : rowByteSize reader = (cursor reader).rowSize
  metadata_cursor (reader : ρ) : cursor (metadata reader).2 = cursor reader
  metadata_known (reader : ρ) : known (metadata reader).2 = (metadata reader).1.toOption
  metadata_of_known {reader : ρ} {columns : Metadata} :
    known reader = some columns → (metadata reader).1 = .ok columns
  close_ended (reader : ρ) : (cursor (close reader)).ended = true
  nextRow_cases {reader : ρ} : Placed (cursor reader) (known reader) →
    RowCall cursor known Obtains reader (nextRow reader).1 (nextRow reader).2
  metadata_inStep (reader : ρ) {fault : ReadFault} :
    (metadata reader).1 = .error fault → ¬fault.IsOutOfStep

namespace ReadBy

theorem standing (reads : ReadBy cursor known Obtains) {columns : Metadata} {row : Row}
    {taken : Nat} (knows : known reader = some columns) (width : row.length = columns.length)
    (within : taken ≤ row.length) (stands : cursor reader = .along row taken) :
    Standing columns row taken reader where
  metadata := reads.metadata_of_known knows
  hasNextColumn := by
    rw [reads.hasNextColumn_eq, stands, Cursor.hasNext_along, knows, Option.getD_some, width]
  nextColumn := by
    rw [reads.nextColumn_answer, stands, knows, Option.getD_some, Cursor.next_along width within]
  columnType := by
    rw [reads.columnType_eq, stands, knows, Option.getD_some, Cursor.columnType_along width within]
  rowByteSize := by rw [reads.rowByteSize_eq, stands, Cursor.along_rowSize]

theorem barred (reads : ReadBy cursor known Obtains) (idle : (cursor reader).Idle) :
    Barred reader := by
  rcases idle.check with ⟨message, refuses, _⟩
  constructor
  · exact ⟨message, by rw [reads.hasNextColumn_eq, Cursor.hasNext_of_check _ refuses]⟩
  · exact ⟨message, by rw [reads.nextColumn_answer, Cursor.next_of_check _ refuses]⟩
  · exact ⟨message, by rw [reads.columnType_eq, Cursor.columnType_of_check _ refuses]⟩

/-! ### What a call leaves -/

theorem nextColumn_idle (reads : ReadBy cursor known Obtains) (idle : (cursor reader).Idle) :
    cursor (nextColumn reader).2 = cursor reader := by
  rcases idle.check with ⟨_, refuses, _⟩
  rw [reads.nextColumn_cursor, Cursor.next_of_check _ refuses]

theorem call_along (reads : ReadBy cursor known Obtains) {columns : Metadata} {row : Row}
    {taken : Nat} (knows : known reader = some columns) (width : row.length = columns.length)
    (within : taken ≤ row.length) (stands : cursor reader = .along row taken)
    {made : ReaderCall} (rows : made ≠ .nextRow) (closes : made ≠ .close) :
    known (call made reader).2 = some columns ∧
      cursor (call made reader).2 =
        .along row (min (taken + [made].count .nextColumn) row.length) := by
  have stays : cursor reader = .along row (min taken row.length) := by
    rw [stands, Nat.min_eq_left within]
  cases made with
  | metadata =>
      constructor
      · exact (reads.metadata_known reader).trans
          (congrArg Except.toOption (reads.metadata_of_known knows))
      · exact (reads.metadata_cursor reader).trans stays
  | nextColumn =>
      constructor
      · exact (reads.nextColumn_known reader).trans knows
      · have moves := reads.nextColumn_cursor reader
        rw [stands, knows, Option.getD_some, Cursor.next_along width within] at moves
        exact moves
  | hasNextColumn | columnType | rowByteSize => exact ⟨knows, stays⟩
  | nextRow => exact absurd rfl rows
  | close => exact absurd rfl closes

theorem answers_along (reads : ReadBy cursor known Obtains) {columns : Metadata} {row : Row}
    {taken : Nat} (knows : known reader = some columns) (width : row.length = columns.length)
    (within : taken ≤ row.length) (stands : cursor reader = .along row taken)
    {calls : List ReaderCall} (stay : Stay calls) :
    known (answers calls reader).2 = some columns ∧
      cursor (answers calls reader).2 =
        .along row (min (taken + calls.count .nextColumn) row.length) := by
  induction calls generalizing reader taken with
  | nil =>
      refine ⟨knows, stands.trans ?_⟩
      rw [List.count_nil, Nat.add_zero, Nat.min_eq_left within]
  | cons made calls induction =>
      rcases stay.of_cons with ⟨rows, closes, stay⟩
      rcases reads.call_along knows width within stands rows closes with ⟨knows, stands⟩
      have along := induction knows (Nat.min_le_right _ _) stands stay
      have total : min (min (taken + [made].count .nextColumn) row.length +
            calls.count .nextColumn) row.length =
          min (taken + (made :: calls).count .nextColumn) row.length := by
        have counts : (made :: calls).count .nextColumn =
            [made].count .nextColumn + calls.count .nextColumn := by
          rw [← List.count_append, List.singleton_append]
        omega
      rw [total] at along
      exact along

theorem answers_idle (reads : ReadBy cursor known Obtains) (idle : (cursor reader).Idle)
    {calls : List ReaderCall} (stay : Stay calls) :
    cursor (answers calls reader).2 = cursor reader := by
  induction calls generalizing reader with
  | nil => rfl
  | cons made calls induction =>
      rcases stay.of_cons with ⟨rows, closes, stay⟩
      have same : cursor (call made reader).2 = cursor reader := by
        cases made with
        | metadata => exact reads.metadata_cursor reader
        | nextColumn => exact reads.nextColumn_idle idle
        | hasNextColumn | columnType | rowByteSize => rfl
        | nextRow => exact absurd rfl rows
        | close => exact absurd rfl closes
      have idle' : (cursor (call made reader).2).Idle := same ▸ idle
      exact (induction idle' stay).trans same

theorem nextRow_behind (reads : ReadBy cursor known Obtains)
    (ended : (cursor reader).ended = true) : nextRow reader = (.ok false, reader) := by
  rcases told : nextRow reader with ⟨answer, next⟩
  have outcome := reads.nextRow_cases (.idle (.inr ended) : Placed _ (known reader))
  rw [told] at outcome
  cases outcome with
  | behind => rfl
  | refused going | row going | ended going => simp [ended] at going

theorem call_ended (reads : ReadBy cursor known Obtains) (reader : ρ) (made : ReaderCall)
    (ended : (cursor reader).ended = true) : (cursor (call made reader).2).ended = true := by
  cases made with
  | metadata => exact (congrArg Cursor.ended (reads.metadata_cursor reader)).trans ended
  | nextRow =>
      have stays := congrArg Prod.snd (reads.nextRow_behind ended)
      exact (congrArg (fun reader => (cursor reader).ended) stays).trans ended
  | nextColumn => exact (congrArg Cursor.ended (reads.nextColumn_idle (.inr ended))).trans ended
  | close => exact reads.close_ended reader
  | hasNextColumn | columnType | rowByteSize => exact ended

theorem answers_ended (reads : ReadBy cursor known Obtains) (ended : (cursor reader).ended = true)
    (calls : List ReaderCall) : (cursor (answers calls reader).2).ended = true :=
  answers_keep reads.call_ended ended calls

theorem over_of_ended (reads : ReadBy cursor known Obtains) (ended : (cursor reader).ended = true) :
    Over reader :=
  { reads.barred (.inr ended) with
    nextRow := congrArg Prod.fst (reads.nextRow_behind ended) }

/-! ### Every history -/

theorem announced (reads : ReadBy cursor known Obtains)
    (placed : Placed (cursor reader) (known reader)) {calls : List ReaderCall} (stay : Stay calls)
    (unread : .nextColumn ∉ calls) :
    hasNextColumn reader = .ok true ↔
      ∃ cell, (nextColumn (answers calls reader).2).1 = .ok cell := by
  rcases placed.idle_or_along with idle | ⟨columns, row, taken, knows, width, within, stands⟩
  · have later : (cursor (answers calls reader).2).Idle := by
      rw [reads.answers_idle idle stay]
      exact idle
    rcases (reads.barred idle).hasNextColumn with ⟨_, before⟩
    rcases (reads.barred later).nextColumn with ⟨_, after⟩
    simp [before, after]
  · have before := reads.standing knows width within stands
    rcases reads.answers_along knows width within stands stay with ⟨knows, stands⟩
    rw [List.count_eq_zero_of_not_mem unread, Nat.add_zero, Nat.min_eq_left within] at stands
    have after := reads.standing knows width within stands
    rw [before.hasNextColumn, after.nextColumn]
    cases here : row[taken]? with
    | some cell => simpa using (List.getElem?_eq_some_iff.mp here).1
    | none => simpa using List.getElem?_eq_none_iff.mp here

theorem columns_inStep (reads : ReadBy cursor known Obtains)
    (placed : Placed (cursor reader) (known reader)) {fault : ReadFault}
    (refused : hasNextColumn reader = .error fault ∨ (nextColumn reader).1 = .error fault ∨
      columnType reader = .error fault) : ¬fault.IsOutOfStep := by
  rcases placed.idle_or_along with idle | ⟨columns, row, taken, knows, width, within, stands⟩
  · rcases idle.check with ⟨message, refuses, inStep⟩
    rw [reads.hasNextColumn_eq, reads.nextColumn_answer, reads.columnType_eq,
      Cursor.hasNext_of_check _ refuses, Cursor.next_of_check _ refuses,
      Cursor.columnType_of_check _ refuses] at refused
    rcases refused with same | same | same
    all_goals
      cases same
      exact inStep
  · have standing := reads.standing knows width within stands
    rw [standing.hasNextColumn, standing.nextColumn, standing.columnType] at refused
    rcases refused with same | same | same
    · cases same
    all_goals
      split at same
      · cases same
      · cases same
        simp [ReadFault.IsOutOfStep]

theorem nextRow_inStep (reads : ReadBy cursor known Obtains)
    (placed : Placed (cursor reader) (known reader)) {fault : ReadFault}
    (refused : (nextRow reader).1 = .error fault) : ¬fault.IsOutOfStep := by
  have outcome := reads.nextRow_cases placed
  rw [refused] at outcome
  cases outcome with
  | refused _ blames => exact reads.metadata_inStep reader blames
  | ended _ _ inStep => exact inStep fault rfl

theorem inStep (reads : ReadBy cursor known Obtains)
    (placed : Placed (cursor reader) (known reader)) (made : ReaderCall) {fault : ReadFault}
    (refused : (call made reader).1 = .fault fault) : ¬fault.IsOutOfStep := by
  cases made with
  | metadata =>
      exact reads.metadata_inStep reader (ReaderAnswer.of_ofExcept .metadata nofun refused)
  | nextRow => exact reads.nextRow_inStep placed (ReaderAnswer.of_ofExcept .truth nofun refused)
  | rowByteSize | close => cases refused
  | hasNextColumn =>
      exact reads.columns_inStep placed (.inl (ReaderAnswer.of_ofExcept .truth nofun refused))
  | nextColumn =>
      exact reads.columns_inStep placed (.inr (.inl (ReaderAnswer.of_ofExcept .cell nofun refused)))
  | columnType =>
      exact reads.columns_inStep placed (.inr (.inr (ReaderAnswer.of_ofExcept .type nofun refused)))

theorem orderly (reads : ReadBy cursor known Obtains)
    (placed : Placed (cursor reader) (known reader)) : Orderly Obtains reader where
  announced calls stay unread := reads.announced placed stay unread
  inStep made fault refused := reads.inStep placed made refused
  row got := by
    have outcome := reads.nextRow_cases placed
    generalize nextRow reader = result at outcome got ⊢
    rcases result with ⟨answer, next⟩
    cases got
    cases outcome with
    | @row columns row _ _ width knows stands obtains =>
        refine ⟨columns, row, obtains, width, fun calls stay => ?_⟩
        rcases reads.answers_along knows width (Nat.zero_le _) stands stay with ⟨knows, stands⟩
        rw [Nat.zero_add] at stands
        exact reads.standing knows width (Nat.min_le_right _ _) stands
    | ended _ differs => exact absurd rfl differs
  ended := by
    intro noRow own calls
    have outcome := reads.nextRow_cases placed
    generalize nextRow reader = result at outcome noRow own ⊢
    rcases result with ⟨answer, next⟩
    apply reads.over_of_ended
    apply reads.answers_ended
    cases outcome with
    | behind ended => exact ended
    | refused _ blames => exact absurd blames (own _ rfl)
    | row => exact absurd rfl noRow
    | ended _ _ _ ended => exact ended

end ReadBy

end

/-! ## Tables in memory -/

namespace MemoryReader

/-- The row is the first one in the list. -/
def Obtains (reader : MemoryReader) (row : Row) (next : MemoryReader) : Prop :=
  reader.rows = row :: next.rows

end MemoryReader

/-! ## Streams -/

namespace Handoff

variable {handoff after : Handoff} {fault : ReadFault}

theorem metadata?_inStep (told : handoff.metadata? = some (.error fault)) :
    ¬fault.IsOutOfStep := by
  unfold metadata? at told
  split at told
  · cases told
  · cases told
    simp [ReadFault.IsOutOfStep]
  · split at told <;> cases told
    simp [ReadFault.IsOutOfStep]

end Handoff

namespace StreamReader

/-- The row is the one that the stream gives next, once the columns are known. -/
def Obtains (reader : StreamReader) (row : Row) (next : StreamReader) : Prop :=
  reader.metadata.2.stream.fetch = (.ok (.row row), next.stream)

theorem metadata_of_known {reader : StreamReader} {columns : Metadata}
    (known : reader.known = some columns) : reader.metadata = (.ok columns, reader) := by
  simp only [StreamReader.metadata, known]

theorem metadata_known (reader : StreamReader) :
    reader.metadata.2.known = reader.metadata.1.toOption := by
  cases known : reader.known with
  | some columns => simp only [StreamReader.metadata, known, Except.toOption]
  | none => exact (metadata_unknown known).2.2.2.2

theorem metadata_inStep (reader : StreamReader) {fault : ReadFault}
    (refused : reader.metadata.1 = .error fault) : ¬fault.IsOutOfStep := by
  cases known : reader.known with
  | some columns => simp [StreamReader.metadata, known] at refused
  | none =>
      rw [(metadata_unknown known).1] at refused
      cases told : reader.stream.metadata.1 with
      | ok columns => simp [told, Except.map] at refused
      | error other =>
          obtain rfl : other = fault := by simpa [told, Except.map] using refused
          have inTime : .error other ≠ expiredMetadata := by simp [expiredMetadata]
          rcases (Leads.stable _).metadata_told (.refl _) told inTime with ⟨met, _, known⟩
          exact metadata?_inStep known

theorem close_ended (reader : StreamReader) : reader.close.cursor.ended = true := by
  unfold close
  cases ended : reader.cursor.ended with
  | true => simpa using ended
  | false => rfl

end StreamReader

example :
    let header : Header := [{ name := "id", datatype := some "int" }, { name := "name" }]
    let steps : List ParserStep := [.metadata header, .row [.int 1, .null], .endRows]
    (answers [.nextRow, .nextColumn, .columnType, .nextColumn, .nextColumn, .nextRow, .nextColumn]
        (StreamReader.scheduled steps false [])).1 =
      [.truth true, .cell (.int 1), .type (.plain .integer), .cell .null,
        .fault (.noSuchElement "no more field to read"), .truth false,
        .fault (.state "end of the table already reached")] :=
  rfl

end TableIntake

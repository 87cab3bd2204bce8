import TableIntake.Proofs.Reader.Steps
import TableIntake.Proofs.Stream.Dealing
import TableIntake.Reader.Limited

/-! # What readers keep

Whatever is asked of a reader, it keeps what its stream keeps. Each row that it gets is one that its
parser has handed over, and leaves fewer of them.
-/

namespace TableIntake

open Handoff TableReader

theorem Cursor.next_place (columns : Nat) (cursor : Cursor) :
    (cursor.next columns).2.started = cursor.started ∧
      (cursor.next columns).2.ended = cursor.ended := by
  rw [next]
  split
  · exact ⟨rfl, rfl⟩
  · exact ⟨rfl, rfl⟩
  · split <;> exact ⟨rfl, rfl⟩

namespace StreamReader

variable {Holds : Producer → Handoff → Prop} {reader next : StreamReader}

/-- Something holds of the producer and the handoff of a reader. -/
def Meets (Holds : Producer → Handoff → Prop) (reader : StreamReader) : Prop :=
  Holds reader.stream.producer reader.stream.handoff

theorem Meets.metadata (meets : reader.Meets Holds) (stable : Stable Holds) :
    reader.metadata.2.Meets Holds := by
  have later := stable.metadata meets
  have learned := reader.metadata_learned
  generalize reader.metadata = result at learned ⊢
  cases learned with
  | known => exact meets
  | refused | told | bare => exact later

theorem Meets.close (meets : reader.Meets Holds) (stable : Stable Holds) :
    reader.close.Meets Holds :=
  stable.cancel meets

theorem Meets.fetchRow (meets : reader.Meets Holds) (stable : Stable Holds) :
    reader.fetchRow.2.Meets Holds := by
  have moved : { reader with stream := reader.stream.fetch.2 }.Meets Holds := stable.fetch meets
  have fetches := reader.fetchRow_fetches
  generalize reader.fetchRow = result at fetches ⊢
  cases fetches with
  | row | ended | cancelled | failed => exact moved
  | misfit => exact moved.close stable

theorem Meets.nextRow (meets : reader.Meets Holds) (stable : Stable Holds) :
    reader.nextRow.2.Meets Holds := by
  have known := meets.metadata stable
  have advanced := reader.nextRow_advanced
  generalize reader.nextRow = result at advanced ⊢
  cases advanced with
  | behind => exact meets
  | further => exact meets.fetchRow stable
  | refused => exact known
  | first =>
      have begun :
          { reader.metadata.2 with cursor := reader.metadata.2.cursor.start }.Meets Holds :=
        known
      exact begun.fetchRow stable

theorem Meets.call (meets : reader.Meets Holds) (stable : Stable Holds) (call : ReaderCall) :
    (TableReader.call call reader).2.Meets Holds := by
  cases call with
  | metadata => exact meets.metadata stable
  | nextRow => exact meets.nextRow stable
  | close => exact meets.close stable
  | nextColumn | hasNextColumn | columnType | rowByteSize => exact meets

theorem Meets.answers (meets : reader.Meets Holds) (stable : Stable Holds)
    (calls : List ReaderCall) : (TableReader.answers calls reader).2.Meets Holds :=
  answers_keep (fun _ next meets => meets.call stable next) meets calls

/-! ## Rows that are asked for -/

theorem fetch_row_remaining {stream : Stream} {row : Row}
    (told : stream.fetch.1 = .ok (.row row)) : stream.fetch.2.remaining < stream.remaining := by
  have stable := Producer.due_stable stream.remaining
  rcases stable.fetch_told (Nat.le_refl _) told nofun with ⟨met, within, fetches⟩
  rcases fetch_row fetches with ⟨full, empty⟩
  have later : stream.fetch.2.remaining =
      stream.fetch.2.handoff.held + stream.fetch.2.producer.remaining := rfl
  unfold Producer.due at within
  omega

/-- A row that a reader gets leaves fewer of them. Behind the last row there is a reason for the
end. -/
inductive Moved (reader : StreamReader) : Bool → StreamReader → Prop
  | row {next : StreamReader} :
      next.cursor.ended = false → next.stream.remaining < reader.stream.remaining →
      Moved reader true next
  | ended {next : StreamReader} {reason : EndReason} :
      next.endReason = some reason → Moved reader false next

theorem fetchRow_moved {more : Bool} (lasts : reader.cursor.ended = false)
    (fetches : reader.fetchRow = (.ok more, next)) : reader.Moved more next := by
  have came := reader.fetchRow_fetches
  rw [fetches] at came
  cases came with
  | row told => exact .row lasts (fetch_row_remaining told)
  | ended | cancelled => exact .ended rfl

theorem metadata_cursor (reader : StreamReader) : reader.metadata.2.cursor = reader.cursor := by
  have learned := reader.metadata_learned
  generalize reader.metadata = result at learned ⊢
  cases learned with
  | known | refused | told | bare => rfl

theorem nextRow_moved {more : Bool} (lasts : reader.cursor.ended = false)
    (moves : reader.nextRow = (.ok more, next)) : reader.Moved more next := by
  have advanced := reader.nextRow_advanced
  rw [moves] at advanced
  generalize result : (Except.ok more, next) = fetched at advanced
  cases advanced with
  | behind ended => simp [lasts] at ended
  | further => exact fetchRow_moved lasts result.symm
  | refused => cases result
  | first =>
      have stays := congrArg Cursor.ended reader.metadata_cursor
      have within : reader.Meets fun producer handoff =>
          producer.due handoff ≤ reader.stream.remaining :=
        Nat.le_refl _
      have known := within.metadata (Producer.due_stable _)
      let begun := { reader.metadata.2 with cursor := reader.metadata.2.cursor.start }
      have begins : begun.cursor.ended = false := stays.trans lasts
      cases fetchRow_moved begins result.symm with
      | row goesOn fewer => exact .row goesOn (Nat.lt_of_lt_of_le fewer known)
      | ended reason => exact .ended reason

/-! ## Rows that are handed over -/

variable {header : Header} {rows : List Row}

structure Stands (reader : StreamReader) (row : Row) : Prop where
  row : reader.cursor.row = row
  column : reader.cursor.column = 0

theorem fetchRow_stands (fetches : reader.fetchRow = (.ok true, next)) :
    ∃ row, reader.stream.fetch.1 = .ok (.row row) ∧ next.Stands row := by
  have came := reader.fetchRow_fetches
  rw [fetches] at came
  cases came with
  | row told => exact ⟨_, told, rfl, rfl⟩

theorem nextRow_stands (deals : reader.Meets (Producer.Deals header rows))
    (moves : reader.nextRow = (.ok true, next)) : ∃ row ∈ rows, next.Stands row := by
  have fetched {begun : StreamReader} (deals : begun.Meets (Producer.Deals header rows))
      (fetches : begun.fetchRow = (.ok true, next)) : ∃ row ∈ rows, next.Stands row := by
    rcases fetchRow_stands fetches with ⟨row, told, stands⟩
    exact ⟨row, Stream.mem_of_fetch deals told, stands⟩
  have advanced := reader.nextRow_advanced
  rw [moves] at advanced
  generalize result : (Except.ok true, next) = got at advanced
  cases advanced with
  | behind | refused => cases result
  | further => exact fetched deals result.symm
  | first =>
      have known := deals.metadata (Producer.Deals.stable header rows)
      have begun : { reader.metadata.2 with cursor := reader.metadata.2.cursor.start }.Meets
          (Producer.Deals header rows) := known
      exact fetched begun result.symm

theorem columns_of_metadata (deals : reader.Meets (Producer.Deals header rows))
    (unknown : reader.known = none) {columns : Metadata}
    (told : reader.metadata = (.ok columns, next)) :
    header.metadata = .ok columns ∨ columns = [] := by
  have learned := reader.metadata_learned
  rw [told] at learned
  cases learned with
  | known knows => cases unknown.symm.trans knows
  | told _ found => exact .inl (Stream.columns_of_metadata deals found)
  | bare => exact .inr rfl

end StreamReader

namespace LimitedReader

variable {limited next : LimitedReader StreamReader}

theorem inner_metadata {answer : Except ReadFault Metadata}
    (told : TableReader.metadata limited = (answer, next)) :
    limited.inner.metadata = (answer, next.inner) := by
  cases told
  rfl

theorem inner_nextRow {more : Bool} (moves : limited.nextRow = (.ok more, next)) :
    limited.inner.nextRow = (.ok more, next.inner) := by
  unfold nextRow at moves
  split at moves
  · cases moves
  · split at moves
    · cases moves
    next told =>
      cases moves
      exact told
    next told =>
      simp only at moves
      split at moves
      · cases moves
      · cases moves
        exact told

end LimitedReader

end TableIntake

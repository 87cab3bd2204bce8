import TableIntake.Proofs.Reader.Ending
import TableIntake.Proofs.Reader.Steps
import TableIntake.Proofs.Stream.Account

/-! # Readings

An account read without any threads: each answer follows from the account and from what was
asked before. A reader of a stream that nobody cancels gives the same answers, however its
producer and itself take turns.
-/

namespace TableIntake

open Handoff

theorem Header.metadata_eq_mapM (header : Header) :
    header.metadata = header.mapM FieldDeclaration.column := by
  induction header with
  | nil => rfl
  | cons field rest induction =>
      rw [Header.metadata, induction, List.mapM_cons]

namespace Account

/-- The columns of the header, where the leftmost fault wins. A table without header has no
columns, and cannot be read if there is anything in it. -/
def metadata (account : Account) : Except ReadFault Metadata :=
  match account.header, account.rows, account.fault with
  | some header, _, _ => (header.mapM FieldDeclaration.column).mapError .schema
  | none, _ :: _, _ => .error (.parse prematureRow)
  | none, [], some fault => .error (.parse fault)
  | none, [], none => .ok []

def fitting (account : Account) (columns : Metadata) : List Row :=
  account.rows.takeWhile fun row => row.length = columns.length

/-- The answer to the call for a row that comes after `asked` others. The rows that fit are
followed by one fault, if any, and then there are no more. -/
def nextRow (account : Account) (asked : Nat) : Except ReadFault Bool :=
  match account.metadata with
  | .error fault => .error fault
  | .ok columns =>
      let fitting := (account.fitting columns).length
      if asked < fitting then .ok true
      else if fitting < asked then .ok false
      else
        match account.rows[asked]?, account.fault with
        | some row, _ =>
            .error (StreamReader.wrongWidth (asked + 1) row.length columns.length)
        | none, some fault => .error (.parse fault)
        | none, none => .ok false

end Account

/-- Where somebody who reads an account stands: behind so many calls for a row, and so many
columns of the row that the last of them gave. -/
structure Reading where
  account : Account
  asked : Nat := 0
  column : Nat := 0

namespace Reading

def current (reading : Reading) : Except ReadFault (Metadata × Row) :=
  match reading.account.metadata, reading.asked with
  | .error _, _ | _, 0 => .error (.state "no row has yet been read")
  | .ok columns, last + 1 =>
      match (reading.account.fitting columns)[last]? with
      | some row => .ok (columns, row)
      | none => .error (.state "end of the table already reached")

instance : TableReader Reading where
  metadata reading := (reading.account.metadata, reading)
  nextRow reading :=
    (reading.account.nextRow reading.asked,
      { reading with asked := reading.asked + 1, column := 0 })
  hasNextColumn reading := reading.current.map fun (_, row) => reading.column < row.length
  nextColumn reading :=
    match reading.current with
    | .error fault => (.error fault, reading)
    | .ok (_, row) =>
        match row[reading.column]? with
        | some cell => (.ok cell, { reading with column := reading.column + 1 })
        | none => (.error (.noSuchElement "no more field to read"), reading)
  columnType reading :=
    match reading.current, reading.column with
    | .error fault, _ => .error fault
    | .ok _, 0 => .error (.state "no field has yet been read")
    | .ok (columns, _), read + 1 =>
        match columns[read]? with
        | some column => .ok column.type
        | none => .error (.state "all fields have already been read")
  rowByteSize reading :=
    match reading.current with
    | .error _ => 0
    | .ok (_, row) => row.byteSize
  close := id
  remaining reading := reading.account.rows.length - reading.asked

end Reading

/-! ## Accounts and prospects -/

namespace Account

variable {account : Account} {columns : Metadata}

theorem metadata_eq_known (account : Account) :
    account.metadata = account.prospect.known.map (·.getD []) := by
  rcases account with ⟨header, rows, fault⟩
  cases header with
  | some header =>
      simp only [metadata, prospect, Prospect.known, MetadataSlot.ofHeader,
        ← Header.metadata_eq_mapM]
      cases header.metadata <;> rfl
  | none =>
      cases rows with
      | cons => rfl
      | nil => cases fault <;> rfl

theorem metadata_of_header (header : Header) (rows : List Row) (fault : Option ParseFault) :
    Account.metadata ⟨some header, rows, fault⟩ = header.metadata.mapError .schema := by
  rw [Header.metadata_eq_mapM]
  rfl

theorem prospect_rows (resolves : account.metadata = .ok columns) :
    account.prospect.rows = account.rows ∧ account.prospect.fault = account.fault := by
  rcases account with ⟨header, rows, fault⟩
  cases header with
  | some header => exact ⟨rfl, rfl⟩
  | none =>
      cases rows with
      | cons => cases resolves
      | nil => exact ⟨rfl, rfl⟩

theorem getElem?_takeWhile {α : Type} (fits : α → Bool) {items : List α} {index : Nat}
    (within : index ≤ (items.takeWhile fits).length) :
    (items.takeWhile fits)[index]? = items[index]?.filter fits := by
  induction items generalizing index with
  | nil => rfl
  | cons item rest induction =>
      cases fit : fits item with
      | false =>
          rw [List.takeWhile_cons_of_neg (by simp [fit])] at within ⊢
          obtain rfl : index = 0 := by simpa using within
          simp [Option.filter, fit]
      | true =>
          rw [List.takeWhile_cons_of_pos fit] at within ⊢
          cases index with
          | zero => simp [Option.filter, fit]
          | succ index => exact induction (Nat.le_of_succ_le_succ within)

theorem nextRow_fits {asked : Nat} {row : Row} (resolves : account.metadata = .ok columns)
    (here : (account.fitting columns)[asked]? = some row) : account.nextRow asked = .ok true := by
  have within := (List.getElem?_eq_some_iff.mp here).1
  simp [nextRow, resolves, within]

theorem nextRow_misfit {row : Row} (resolves : account.metadata = .ok columns)
    (here : account.rows[(account.fitting columns).length]? = some row) :
    account.nextRow (account.fitting columns).length =
      .error (StreamReader.wrongWidth ((account.fitting columns).length + 1) row.length
        columns.length) := by
  simp [nextRow, resolves, here]

theorem nextRow_end (resolves : account.metadata = .ok columns)
    (spent : account.rows[(account.fitting columns).length]? = none) :
    account.nextRow (account.fitting columns).length =
      match account.fault with
      | some fault => .error (.parse fault)
      | none => .ok false := by
  simp only [nextRow, resolves, spent, Nat.lt_irrefl, if_false]
  cases account.fault <;> rfl

theorem nextRow_behind {asked : Nat} (resolves : account.metadata = .ok columns)
    (behind : (account.fitting columns).length < asked) : account.nextRow asked = .ok false := by
  have late : ¬asked < (account.fitting columns).length := Nat.not_lt.mpr (Nat.le_of_lt behind)
  simp [nextRow, resolves, behind, late]

theorem getElem?_fitting {asked : Nat} (within : asked ≤ (account.fitting columns).length) :
    (account.fitting columns)[asked]? =
      account.rows[asked]?.filter fun row => row.length = columns.length :=
  getElem?_takeWhile _ within

theorem of_getElem?_fitting {asked : Nat} {row : Row}
    (here : (account.fitting columns)[asked]? = some row) :
    account.rows[asked]? = some row ∧ row.length = columns.length := by
  have within := (List.getElem?_eq_some_iff.mp here).1
  rw [getElem?_fitting (Nat.le_of_lt within)] at here
  simpa using Option.filter_eq_some_iff.mp here

end Account

/-! ## Following an account -/

namespace Cursor

variable {columns column : Nat} {row : Row}

theorem start_of_started {cursor : Cursor} (started : cursor.started = true) :
    cursor.start = cursor := by
  simp only [start, ← started]

def along (row : Row) (column : Nat) : Cursor :=
  ⟨true, false, List.replicate column .null ++ row.drop column, column, row.byteSize⟩

@[simp] theorem along_started (row : Row) (column : Nat) : (along row column).started = true :=
  rfl

@[simp] theorem along_ended (row : Row) (column : Nat) : (along row column).ended = false :=
  rfl

@[simp] theorem along_check (row : Row) (column : Nat) : (along row column).check = .ok () :=
  rfl

@[simp] theorem along_column (row : Row) (column : Nat) : (along row column).column = column :=
  rfl

@[simp] theorem along_rowSize (row : Row) (column : Nat) :
    (along row column).rowSize = row.byteSize :=
  rfl

theorem load_eq_along {cursor : Cursor} (row : Row) (started : cursor.started = true)
    (going : cursor.ended = false) : cursor.load row = along row 0 := by
  simp [load, along, started, going]

theorem next_of_getElem? {cell : Cell} (here : row[column]? = some cell)
    (within : column < columns) :
    next columns (along row column) = (.ok cell, along row (column + 1)) := by
  have untaken : (List.replicate column .null ++ row.drop column)[column]? = some cell := by
    simpa [List.getElem?_append_right] using here
  rcases List.getElem?_eq_some_iff.mp here with ⟨bound, rfl⟩
  have takes : (List.replicate column Cell.null ++ row.drop column).set column .null =
      List.replicate (column + 1) .null ++ row.drop (column + 1) := by
    have first : (row.drop column).set 0 .null = .null :: row.drop (column + 1) := by
      rw [List.drop_eq_getElem_cons bound, List.set_cons_zero]
    simp [List.set_append_right, first, List.replicate_succ']
  simp [next, along, hasNext, check, untaken, takes, within, bind, Except.bind, pure, Except.pure]

theorem next_of_le (row : Row) (beyond : columns ≤ column) :
    next columns (along row column) =
      (.error (.noSuchElement "no more field to read"), along row column) := by
  simp [next, along, hasNext, check, Nat.not_lt.mpr beyond, bind, Except.bind, pure, Except.pure]

end Cursor

namespace StreamReader

structure Fresh (reader : StreamReader) (account : Account) : Prop where
  owes : reader.stream.Owes account.prospect
  cursor : reader.cursor = {}
  rowsRead : reader.rowsRead = 0
  known : ∀ columns, reader.known = some columns → account.metadata = .ok columns

structure Awaits (reader : StreamReader) (account : Account) (asked : Nat) : Prop where
  owes : ∃ prospect, reader.stream.Owes prospect ∧
    prospect.rows = account.rows.drop asked ∧ prospect.fault = account.fault
  rowsRead : reader.rowsRead = asked

/-- A reader of a stream that stands where a reading of the account does: before the first
row, at a row, or behind the last one. -/
inductive Follows : StreamReader → Reading → Prop
  | before {reader : StreamReader} {account : Account} {asked : Nat} :
      reader.Fresh account →
      (asked = 0 ∨ ∃ fault, account.metadata = .error fault) →
      Follows reader { account := account, asked := asked }
  | at {reader : StreamReader} {account : Account} {columns : Metadata} {last column : Nat}
      {row : Row} :
      reader.Awaits account (last + 1) →
      account.metadata = .ok columns → reader.known = some columns →
      (account.fitting columns)[last]? = some row →
      reader.cursor = .along row column →
      Follows reader { account := account, asked := last + 1, column := column }
  | behind {reader : StreamReader} {account : Account} {columns : Metadata} {asked : Nat} :
      account.metadata = .ok columns → reader.known = some columns →
      (account.fitting columns).length < asked →
      reader.cursor = ⟨true, true, [], 0, 0⟩ →
      Follows reader { account := account, asked := asked }

variable {reader : StreamReader} {account : Account} {columns : Metadata} {asked : Nat}

theorem Awaits.fetch_row {row : Row} (awaits : reader.Awaits account asked)
    (here : account.rows[asked]? = some row) :
    reader.stream.fetch.1 = .ok (.row row) ∧
      ∃ prospect, reader.stream.fetch.2.Owes prospect ∧
        prospect.rows = account.rows.drop (asked + 1) ∧ prospect.fault = account.fault := by
  rcases awaits.owes with ⟨prospect, owes, rows, fault⟩
  have ahead : prospect.rows = row :: account.rows.drop (asked + 1) := by
    rcases List.getElem?_eq_some_iff.mp here with ⟨bound, equal⟩
    rw [rows, List.drop_eq_getElem_cons bound, equal]
  refine ⟨?_, prospect.rest, owes.fetch.2, ?_, fault⟩
  · rw [owes.fetch.1]
    simp only [Prospect.next, ahead]
  · simp only [Prospect.rest, ahead, List.tail_cons]

theorem Awaits.fetch_end (awaits : reader.Awaits account asked)
    (spent : account.rows[asked]? = none) :
    reader.stream.fetch.1 =
      match account.fault with
      | some fault => .error (.parse fault)
      | none => .ok .ended := by
  rcases awaits.owes with ⟨prospect, owes, rows, fault⟩
  have ahead : prospect.rows = [] := by
    rw [rows]
    exact List.drop_eq_nil_of_le (List.getElem?_eq_none_iff.mp spent)
  rw [owes.fetch.1, ← fault]
  cases blame : prospect.fault <;> simp only [Prospect.next, ahead, blame]

theorem Awaits.fetchRow (awaits : reader.Awaits account asked)
    (resolves : account.metadata = .ok columns) (known : reader.known = some columns)
    (within : asked ≤ (account.fitting columns).length)
    (started : reader.cursor.started = true) (going : reader.cursor.ended = false) :
    reader.fetchRow.1 = account.nextRow asked ∧
      reader.fetchRow.2.Follows { account := account, asked := asked + 1 } := by
  have width := columns_of_known known
  cases fitting : (account.fitting columns)[asked]? with
  | some row =>
      rcases Account.of_getElem?_fitting fitting with ⟨there, fits⟩
      rcases awaits.fetch_row there with ⟨told, owes⟩
      have wide : row.length = reader.columns.length := by rw [fits, width]
      rw [fetchRow_fits told wide, Account.nextRow_fits resolves fitting]
      refine ⟨rfl, ?_⟩
      exact .at ⟨owes, by simp [awaits.rowsRead]⟩ resolves known fitting
        (Cursor.load_eq_along row started going)
  | none =>
      -- The rows that fit are behind the reader: the others begin with a misfit, or there are none.
      obtain rfl : asked = (account.fitting columns).length :=
        Nat.le_antisymm within (List.getElem?_eq_none_iff.mp fitting)
      cases ahead : account.rows[(account.fitting columns).length]? with
      | none =>
          have told := awaits.fetch_end ahead
          rw [Account.nextRow_end resolves ahead]
          cases blame : account.fault with
          | none =>
              rw [blame] at told
              rw [fetchRow_ended told]
              exact ⟨rfl, .behind resolves known (Nat.lt_succ_self _)
                (by simp [finish, Cursor.finish, started])⟩
          | some fault =>
              rw [blame] at told
              rw [fetchRow_error told]
              exact ⟨rfl, .behind resolves known (Nat.lt_succ_self _)
                (by simp [Cursor.finish, started])⟩
      | some row =>
          have misfit : row.length ≠ columns.length := by
            intro fits
            have here := Account.getElem?_fitting within
            simp [ahead, Option.filter, fits] at here
          have told := (awaits.fetch_row ahead).1
          have wide : row.length ≠ reader.columns.length := by rwa [width]
          rw [fetchRow_misfit told wide, Account.nextRow_misfit resolves ahead]
          refine ⟨?_, ?_⟩
          · rw [width, awaits.rowsRead]
          · exact .behind resolves known (Nat.lt_succ_self _)
              (by simp [StreamReader.close, Cursor.finish, started, going])

theorem Fresh.metadata (fresh : reader.Fresh account) :
    reader.metadata.1 = account.metadata ∧ reader.metadata.2.Fresh account ∧
      (∀ columns, account.metadata = .ok columns →
        reader.metadata.2.known = some columns) := by
  cases known : reader.known with
  | some columns =>
      have resolves := fresh.known columns known
      simp only [StreamReader.metadata, known, resolves]
      refine ⟨trivial, fresh, fun _ same => ?_⟩
      exact congrArg some (Except.ok.inj same)
  | none =>
      rcases metadata_unknown known with ⟨answer, stream, cursor, rowsRead, later⟩
      rw [fresh.owes.metadata.1, ← Account.metadata_eq_known] at answer
      rw [answer] at later
      refine ⟨answer, ⟨?_, ?_, ?_, ?_⟩, ?_⟩
      · rw [stream]
        exact fresh.owes.metadata.2
      · rw [cursor, fresh.cursor]
      · rw [rowsRead, fresh.rowsRead]
      · intro columns known
        rw [later] at known
        cases resolves : account.metadata with
        | error => simp [resolves, Except.toOption] at known
        | ok others => simpa [resolves, Except.toOption] using known
      · intro columns resolves
        rw [later, resolves]
        rfl

namespace Follows

variable {reading : Reading}

theorem start {steps : List ParserStep} (tells : Tells steps account) {schedule : List Turn}
    (uncancelled : Uncancelled schedule) :
    (scheduled steps false schedule).Follows { account := account } :=
  .before ⟨.start tells uncancelled, rfl, rfl, nofun⟩ (.inl rfl)

theorem metadata (follows : reader.Follows reading) :
    (TableReader.metadata reader).1 = (TableReader.metadata reading).1 ∧
      (TableReader.metadata reader).2.Follows (TableReader.metadata reading).2 := by
  cases follows with
  | before fresh unread =>
      rcases fresh.metadata with ⟨answer, fresh, _⟩
      exact ⟨answer, .before fresh unread⟩
  | «at» awaits resolves known here stands =>
      simp only [TableReader.metadata, StreamReader.metadata, known, resolves]
      exact ⟨trivial, .at awaits resolves known here stands⟩
  | behind resolves known late stands =>
      simp only [TableReader.metadata, StreamReader.metadata, known, resolves]
      exact ⟨trivial, .behind resolves known late stands⟩

theorem nextRow (follows : reader.Follows reading) :
    (TableReader.nextRow reader).1 = (TableReader.nextRow reading).1 ∧
      (TableReader.nextRow reader).2.Follows (TableReader.nextRow reading).2 := by
  cases follows with
  | @before account asked fresh unread =>
      have going : reader.cursor.ended = false := by rw [fresh.cursor]
      have still : reader.cursor.started = false := by rw [fresh.cursor]
      rcases fresh.metadata with ⟨answer, fresh, resolved⟩
      simp only [TableReader.nextRow, StreamReader.nextRow, going, still, Bool.false_eq_true,
        if_false]
      rcases told : reader.metadata with ⟨answer', started⟩
      simp only [told] at answer fresh resolved
      subst answer
      cases resolves : account.metadata with
      | error fault =>
          -- A refused reader has not started, however often it has asked.
          simp only [Account.nextRow, resolves, true_and]
          exact .before fresh (.inr ⟨fault, resolves⟩)
      | ok columns =>
          obtain rfl : asked = 0 := by
            rcases unread with first | ⟨fault, refused⟩
            · exact first
            · simp [resolves] at refused
          have awaits : { started with cursor := started.cursor.start }.Awaits account 0 := by
            rcases Account.prospect_rows resolves with ⟨rows, fault⟩
            exact ⟨⟨account.prospect, fresh.owes, rows, fault⟩, fresh.rowsRead⟩
          exact awaits.fetchRow resolves (resolved columns resolves) (Nat.zero_le _) rfl
            (by simp [Cursor.start, fresh.cursor])
  | «at» awaits resolves known here stands =>
      have started : reader.cursor.started = true := by rw [stands, Cursor.along_started]
      have going : reader.cursor.ended = false := by rw [stands, Cursor.along_ended]
      simp only [TableReader.nextRow, StreamReader.nextRow, going, started, Bool.false_eq_true,
        if_false, if_true]
      have within := (List.getElem?_eq_some_iff.mp here).1
      exact awaits.fetchRow resolves known within started going
  | behind resolves known late stands =>
      have ended : reader.cursor.ended = true := by rw [stands]
      simp only [TableReader.nextRow, StreamReader.nextRow, ended, if_true]
      rw [Account.nextRow_behind resolves late]
      exact ⟨rfl, .behind resolves known (Nat.lt_succ_of_lt late) stands⟩

theorem stands (follows : reader.Follows reading) :
    (∃ fault, reading.current = .error fault ∧ reader.cursor.check = .error fault ∧
        reader.cursor.rowSize = 0) ∨
      ∃ columns row, reading.current = .ok (columns, row) ∧ reader.columns = columns ∧
        row.length = columns.length ∧
        reader.cursor = .along row reading.column ∧
        { reader with cursor := .along row (reading.column + 1) }.Follows
          { reading with column := reading.column + 1 } := by
  cases follows with
  | @before account asked fresh unread =>
      left
      refine ⟨_, ?_, by rw [fresh.cursor]; rfl, by rw [fresh.cursor]⟩
      rcases unread with rfl | ⟨fault, refused⟩
      · simp only [Reading.current]
        cases account.metadata <;> rfl
      · simp only [Reading.current, refused]
  | @«at» account columns last column row awaits resolves known here stands =>
      right
      refine ⟨columns, row, ?_, columns_of_known known, ?_, stands, ?_⟩
      · simp only [Reading.current, resolves, here]
      · exact (Account.of_getElem?_fitting here).2
      · exact .at ⟨awaits.owes, awaits.rowsRead⟩ resolves known here rfl
  | @behind account columns asked resolves known late stands =>
      left
      refine ⟨_, ?_, by rw [stands]; rfl, by rw [stands]⟩
      obtain ⟨last, rfl⟩ : ∃ last, asked = last + 1 := Nat.exists_eq_succ_of_ne_zero (by omega)
      have none : (account.fitting columns)[last]? = none :=
        List.getElem?_eq_none_iff.mpr (Nat.le_of_lt_succ late)
      simp only [Reading.current, resolves, none]

theorem hasNextColumn (follows : reader.Follows reading) :
    TableReader.hasNextColumn reader = TableReader.hasNextColumn reading := by
  rcases follows.stands with
    ⟨fault, current, refuses, _⟩ | ⟨columns, row, current, same, width, stands, _⟩
  · simp [TableReader.hasNextColumn, current, Cursor.hasNext, refuses, Except.map, bind,
      Except.bind]
  · simp [TableReader.hasNextColumn, current, Cursor.hasNext, stands, same, width,
      Except.map, bind, Except.bind, pure, Except.pure]

theorem columnType (follows : reader.Follows reading) :
    TableReader.columnType reader = TableReader.columnType reading := by
  rcases follows.stands with
    ⟨fault, current, refuses, _⟩ | ⟨columns, row, current, same, width, stands, _⟩
  · simp [TableReader.columnType, current, Cursor.columnType, refuses, bind, Except.bind]
  · simp only [TableReader.columnType, current, Cursor.columnType, Cursor.along_check,
      Cursor.along_column, stands, same]
    cases reading.column with
    | zero => rfl
    | succ read => cases columns[read]? <;> rfl

theorem rowByteSize (follows : reader.Follows reading) :
    TableReader.rowByteSize reader = TableReader.rowByteSize reading := by
  rcases follows.stands with
    ⟨fault, current, _, size⟩ | ⟨columns, row, current, _, _, stands, _⟩
  · simp [TableReader.rowByteSize, current, size]
  · simp [TableReader.rowByteSize, current, stands]

theorem nextColumn (follows : reader.Follows reading) :
    (TableReader.nextColumn reader).1 = (TableReader.nextColumn reading).1 ∧
      (TableReader.nextColumn reader).2.Follows (TableReader.nextColumn reading).2 := by
  rcases follows.stands with
    ⟨fault, current, refuses, _⟩ | ⟨columns, row, current, same, width, stands, onward⟩
  · simpa [TableReader.nextColumn, current, Cursor.next, Cursor.hasNext, refuses, bind,
      Except.bind] using follows
  · simp only [TableReader.nextColumn, current, same, ← width]
    cases ahead : row[reading.column]? with
    | some cell =>
        have within := (List.getElem?_eq_some_iff.mp ahead).1
        rw [stands, Cursor.next_of_getElem? ahead within]
        exact ⟨rfl, onward⟩
    | none =>
        have beyond := List.getElem?_eq_none_iff.mp ahead
        rw [stands, Cursor.next_of_le row beyond, ← stands]
        exact ⟨rfl, follows⟩

theorem call (follows : reader.Follows reading) {call : ReaderCall} (going : call ≠ .close) :
    (TableReader.call call reader).1 = (TableReader.call call reading).1 ∧
      (TableReader.call call reader).2.Follows (TableReader.call call reading).2 := by
  cases call with
  | metadata =>
      rcases follows.metadata with ⟨answer, follows⟩
      exact ⟨congrArg (ReaderAnswer.ofExcept .metadata) answer, follows⟩
  | nextRow =>
      rcases follows.nextRow with ⟨answer, follows⟩
      exact ⟨congrArg (ReaderAnswer.ofExcept .truth) answer, follows⟩
  | hasNextColumn => exact ⟨congrArg (ReaderAnswer.ofExcept .truth) follows.hasNextColumn, follows⟩
  | nextColumn =>
      rcases follows.nextColumn with ⟨answer, follows⟩
      exact ⟨congrArg (ReaderAnswer.ofExcept .cell) answer, follows⟩
  | columnType => exact ⟨congrArg (ReaderAnswer.ofExcept .type) follows.columnType, follows⟩
  | rowByteSize => exact ⟨congrArg ReaderAnswer.size follows.rowByteSize, follows⟩
  | close => exact absurd rfl going

theorem answers (follows : reader.Follows reading) {calls : List ReaderCall}
    (going : .close ∉ calls) :
    (TableReader.answers calls reader).1 = (TableReader.answers calls reading).1 := by
  induction calls generalizing reader reading with
  | nil => rfl
  | cons next rest induction =>
      rw [List.mem_cons, not_or] at going
      rcases follows.call (Ne.symm going.1) with ⟨answer, follows⟩
      exact congr (congrArg List.cons answer) (induction follows going.2)

end Follows

end StreamReader

end TableIntake

import TableIntake.Document.Parsing
import TableIntake.Proofs.Stream.Account

/-! # What documents tell

A document whose fields can be read has a parser that gives its header and then its rows, up to
the first batch that breaks down. A document that ends within its last batch breaks down there.
-/

namespace TableIntake

section Traversal

variable {α β ε : Type} {change : α → Except ε β} {items : List α}

theorem exists_of_mapM_error {fault : ε} (fails : items.mapM change = .error fault) :
    ∃ before item after, items = before ++ item :: after ∧
      (∀ other ∈ before, ∃ value, change other = .ok value) ∧ change item = .error fault := by
  induction items with
  | nil => cases fails
  | cons first rest induction =>
      rw [List.mapM_cons] at fails
      cases changes : change first with
      | error other =>
          rw [changes] at fails
          cases fails
          exact ⟨[], first, rest, rfl, nofun, changes⟩
      | ok value =>
          cases later : rest.mapM change with
          | ok values =>
              rw [changes, later] at fails
              cases fails
          | error other =>
              rw [changes, later] at fails
              cases fails
              rcases induction later with ⟨before, item, after, rfl, fine, fails⟩
              refine ⟨first :: before, item, after, rfl, ?_, fails⟩
              intro other member
              rcases List.mem_cons.mp member with rfl | member
              · exact ⟨value, changes⟩
              · exact fine other member

theorem of_mapM_cons_ok {first : α} {rest : List α} {values : List β}
    (changes : (first :: rest).mapM change = .ok values) :
    ∃ value others, change first = .ok value ∧ rest.mapM change = .ok others ∧
      values = value :: others := by
  rw [List.mapM_cons] at changes
  cases head : change first with
  | error =>
      rw [head] at changes
      cases changes
  | ok value =>
      cases tail : rest.mapM change with
      | error =>
          rw [head, tail] at changes
          cases changes
      | ok others =>
          rw [head, tail] at changes
          cases changes
          exact ⟨value, others, rfl, rfl, rfl⟩

theorem of_mapM_ok {values : List β} (changes : items.mapM change = .ok values) {item : α}
    (member : item ∈ items) : ∃ value, change item = .ok value := by
  induction items generalizing values with
  | nil => cases member
  | cons first rest induction =>
      rcases of_mapM_cons_ok changes with ⟨value, others, head, tail, _⟩
      rcases List.mem_cons.mp member with rfl | member
      · exact ⟨value, head⟩
      · exact induction tail member

theorem length_of_mapM {values : List β} (changes : items.mapM change = .ok values) :
    values.length = items.length := by
  induction items generalizing values with
  | nil =>
      cases changes
      rfl
  | cons first rest induction =>
      rcases of_mapM_cons_ok changes with ⟨value, others, _, tail, rfl⟩
      rw [List.length_cons, List.length_cons, induction tail]

theorem getElem?_of_mapM {values : List β} (changes : items.mapM change = .ok values)
    {position : Nat} {item : α} (here : items[position]? = some item) :
    ∃ value, values[position]? = some value ∧ change item = .ok value := by
  induction items generalizing values position with
  | nil => cases here
  | cons first rest induction =>
      rcases of_mapM_cons_ok changes with ⟨value, others, head, tail, rfl⟩
      cases position with
      | zero =>
          cases here
          exact ⟨value, rfl, head⟩
      | succ position => exact induction tail here

theorem mapM_eq_error_iff {fault : ε} :
    items.mapM change = .error fault ↔
      ∃ before item after, items = before ++ item :: after ∧
        (∀ other ∈ before, ∀ earlier, change other ≠ .error earlier) ∧
        change item = .error fault := by
  constructor
  · intro fails
    rcases exists_of_mapM_error fails with ⟨before, item, after, split, fine, fails⟩
    refine ⟨before, item, after, split, ?_, fails⟩
    intro other member earlier breaks
    rcases fine other member with ⟨value, changes⟩
    cases breaks.symm.trans changes
  · rintro ⟨before, item, after, rfl, fine, fails⟩
    induction before with
    | nil =>
        rw [List.nil_append, List.mapM_cons, fails]
        rfl
    | cons first before induction =>
        have later := induction fun other member => fine other (.tail first member)
        cases changes : change first with
        | error earlier => exact absurd changes (fine first (.head before) earlier)
        | ok value =>
            rw [List.cons_append, List.mapM_cons, changes, later]
            rfl

end Traversal

/-! ## Breakdowns -/

def Breakdown.reason : Breakdown → ParseFault
  | .fault cause => cause
  | .crash => Producer.parserPanicked

namespace FieldType

theorem cell_error {type : FieldType} {datum : Datum} {breakdown : Breakdown}
    (breaks : type.cell datum = .error breakdown) : breakdown = .crash := by
  unfold cell at breaks
  split at breaks
  any_goals contradiction
  split at breaks
  · contradiction
  · cases breaks
    rfl

theorem cells_of_single {type : FieldType} (single : ∀ item, type ≠ .list item)
    (data : List Datum) :
    type.cells data =
      match if type.hasCells then none else type.unknownZone? with
      | some zone => .error (unknownOffset zone)
      | none => data.mapM type.cell :=
  cells.eq_2 type data single

theorem cells_error {type : FieldType} {data : List Datum} {breakdown : Breakdown}
    (breaks : type.cells data = .error breakdown) : breakdown.reason.isAborted = false := by
  induction type, data using FieldType.cells.induct generalizing breakdown with
  | case1 item data induction =>
      rw [cells] at breaks
      rcases exists_of_mapM_error breaks with ⟨_, datum, _, _, _, fails⟩
      cases datum with
      | many data =>
          cases inner : item.cells data with
          | error other =>
              simp only [inner, Except.map] at fails
              cases fails
              exact induction data inner
          | ok => simp [inner, Except.map] at fails
      | _ => contradiction
  | case2 type data single zone unknown =>
      simp only [cells_of_single single, unknown] at breaks
      cases breaks
      rfl
  | case3 type data single known =>
      simp only [cells_of_single single, known] at breaks
      rcases exists_of_mapM_error breaks with ⟨_, datum, _, _, _, fails⟩
      rw [cell_error fails]
      rfl

end FieldType

/-! ## Rows -/

theorem length_of_mem_rowsOf {count : Nat} {columns : List (List Cell)} {row : Row}
    (member : row ∈ rowsOf count columns) : row.length = columns.length := by
  induction count generalizing columns with
  | zero => cases member
  | succ count induction =>
      rcases List.mem_cons.mp member with rfl | later
      · rw [List.length_map]
      · rw [induction later, List.length_map]

namespace Document

variable {document : Document} {batches : List Batch} {batch : Batch} {rows : List Row}

/-- Every batch has a column for each field, and there are fields. -/
structure Regular (document : Document) : Prop where
  fields : document.fields ≠ []
  columns : ∀ batch ∈ document.batches, batch.columns.length = document.fields.length

theorem length_of_mem_batch {fields : List Field}
    (regular : batch.columns.length = fields.length) (reads : batch.rowsOf fields = .ok rows)
    {row : Row} (member : row ∈ rows) : row.length = fields.length := by
  unfold Batch.rowsOf at reads
  split at reads
  · cases reads
    cases member
  next =>
    cases columns : batch.cells fields with
    | error =>
        rw [columns] at reads
        cases reads
    | ok cells =>
        rw [columns] at reads
        cases reads
        have count := length_of_mapM columns
        rw [List.length_zip, regular, Nat.min_self] at count
        rw [length_of_mem_rowsOf member, count]

theorem ne_nil_of_mem_batch {fields : List Field} (nonempty : fields ≠ [])
    (regular : batch.columns.length = fields.length) (reads : batch.rowsOf fields = .ok rows)
    {row : Row} (member : row ∈ rows) : row ≠ [] := by
  -- A row without cells would end the table, but there is a field.
  rintro rfl
  have width := length_of_mem_batch regular reads member
  exact nonempty (List.eq_nil_of_length_eq_zero width.symm)

theorem rowsOf_error {fields : List Field} {breakdown : Breakdown}
    (breaks : batch.rowsOf fields = .error breakdown) : breakdown.reason.isAborted = false := by
  unfold Batch.rowsOf at breaks
  split at breaks
  · cases breaks
  next =>
    cases columns : batch.cells fields with
    | ok =>
        rw [columns] at breaks
        cases breaks
    | error other =>
        rw [columns] at breaks
        cases breaks
        rcases exists_of_mapM_error columns with ⟨_, ⟨field, data⟩, _, _, _, fails⟩
        exact FieldType.cells_error fails

/-- The fault that keeps a reader from the fields of the document. -/
def hidden? (document : Document) : Option ParseFault :=
  if document.isCut && document.batches.isEmpty then some shortRead
  else if document.fields.any (mostLevels < ·.type.levels) then
    some (unreadableMessage "DepthLimitReached")
  else none

/-- The fault that ends the rows: of a batch that breaks down, or of the one that is cut. -/
def endOfBatches? (document : Document) (batches : List Batch) : Option ParseFault :=
  match (rowsOfBatches document.fields batches).2 with
  | some breakdown => some breakdown.reason
  | none => if document.isCut then some shortRead else none

def end? (document : Document) : Option ParseFault :=
  document.endOfBatches? document.readable

theorem mem_of_mem_readable (member : batch ∈ document.readable) : batch ∈ document.batches := by
  unfold readable at member
  split at member
  · exact List.dropLast_subset _ member
  · exact member

theorem length_of_mem_rowsOfBatches
    (regular : ∀ batch ∈ batches, batch.columns.length = document.fields.length) {row : Row}
    (member : row ∈ (rowsOfBatches document.fields batches).1) :
    row.length = document.fields.length := by
  induction batches with
  | nil => cases member
  | cons batch rest induction =>
      unfold rowsOfBatches at member
      split at member
      · cases member
      next rows reads =>
        rcases List.mem_append.mp member with first | later
        · exact length_of_mem_batch (regular batch (.head rest)) reads first
        · exact induction (fun other member => regular other (.tail batch member)) later

theorem length_of_mem_rows (regular : document.Regular) {row : Row}
    (member : row ∈ document.rows) : row.length = document.fields.length :=
  length_of_mem_rowsOfBatches
    (fun batch readable => regular.columns batch (mem_of_mem_readable readable)) member

/-! ## What the parser tells -/

theorem steps_of_hidden {fault : ParseFault} (hidden : document.hidden? = some fault) :
    document.steps = [.fail fault] ∧ fault.isAborted = false := by
  rw [hidden?] at hidden
  rw [steps]
  split at hidden
  next cut =>
    cases hidden
    rw [if_pos cut]
    exact ⟨rfl, rfl⟩
  next whole =>
    rw [if_neg whole]
    split at hidden
    next deep =>
      cases hidden
      rw [if_pos deep]
      exact ⟨rfl, rfl⟩
    next => cases hidden

theorem steps_of_shown (shown : document.hidden? = none) :
    document.steps = .metadata document.header :: document.stepsOfBatches document.readable := by
  rw [hidden?] at shown
  rw [steps]
  split at shown
  · cases shown
  next whole =>
    rw [if_neg whole]
    split at shown
    · cases shown
    next shallow => rw [if_neg shallow]

theorem tells_of_hidden {fault : ParseFault} (hidden : document.hidden? = some fault) :
    Tells document.steps ⟨none, [], some fault⟩ := by
  rcases steps_of_hidden hidden with ⟨same, fails⟩
  rw [same]
  exact .fail fails

theorem tells_ending (document : Document) :
    Tells document.ending ⟨none, [], document.endOfBatches? []⟩ := by
  unfold ending endOfBatches? rowsOfBatches
  cases document.isCut with
  | true => exact .checkpoint (.fail rfl)
  | false => exact .endRows .returned

theorem tells_batches (nonempty : document.fields ≠ [])
    (regular : ∀ batch ∈ batches, batch.columns.length = document.fields.length) :
    Tells (document.stepsOfBatches batches)
      ⟨none, (rowsOfBatches document.fields batches).1, document.endOfBatches? batches⟩ := by
  induction batches with
  | nil => exact document.tells_ending
  | cons batch rest induction =>
      unfold stepsOfBatches endOfBatches? rowsOfBatches
      cases reads : batch.rowsOf document.fields with
      | error breakdown =>
          refine .checkpoint ?_
          cases breakdown with
          | fault cause => exact .fail (rowsOf_error reads)
          | crash => exact .crash
      | ok rows =>
          have later := induction fun other member => regular other (.tail batch member)
          refine .checkpoint (.rows ?_ later)
          intro row member
          exact ne_nil_of_mem_batch nonempty (regular batch (.head rest)) reads member

theorem tells (regular : document.Regular) (shown : document.hidden? = none) :
    Tells document.steps ⟨some document.header, document.rows, document.end?⟩ := by
  rw [steps_of_shown shown]
  exact .metadata (tells_batches regular.fields fun batch readable =>
    regular.columns batch (mem_of_mem_readable readable))

end Document

end TableIntake

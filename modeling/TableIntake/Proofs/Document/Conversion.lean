import TableIntake.Proofs.Document.Telling

/-! # Conversions of values

Each value of a column is converted for itself, whatever stands around it, and the items of a list
like a column of their own. A column cannot be converted if it is shown as text, but for a zone that
nobody knows, or a value that has no text.
-/

namespace TableIntake

namespace FieldType

def range? : FieldType → Option (Int × Int)
  | .int8 => some (-128, 127)
  | .int16 => some (-32768, 32767)
  | .int32 => some (-2147483648, 2147483647)
  | .int64 => some (-9223372036854775808, 9223372036854775807)
  | .uint8 => some (0, 255)
  | .uint16 => some (0, 65535)
  | .uint32 => some (0, 4294967295)
  | _ => none

/-- The values of a type. Nothing is asked of those that are only shown. -/
inductive Holds : FieldType → Datum → Prop
  | null {type : FieldType} : Holds type .null
  | boolean {value : Bool} : Holds .boolean (.boolean value)
  | whole {type : FieldType} {least greatest value : Int} :
      type.range? = some (least, greatest) → least ≤ value → value ≤ greatest →
      Holds type (.whole value)
  | single {bits : UInt32} : Holds .float32 (.single bits)
  | double {bits : UInt64} : Holds .float64 (.double bits)
  | text {value : String} : Holds .utf8 (.text value)
  | bytes {value : List UInt8} : Holds .binary (.bytes value)
  | many {item : FieldType} {data : List Datum} :
      (∀ datum ∈ data, Holds item datum) → Holds (.list item) (.many data)
  | shown {type : FieldType} {datum : Datum} : type.hasCells = false → Holds type datum

inductive Converts : FieldType → Datum → Cell → Prop
  | null {type : FieldType} : Converts type .null .null
  | boolean {value : Bool} : Converts .boolean (.boolean value) (.boolean value)
  | short {type : FieldType} {whole : Int} {value : Int16} :
      type = .int8 ∨ type = .int16 ∨ type = .uint8 → value.toInt = whole →
      Converts type (.whole whole) (.short value)
  | int {type : FieldType} {whole : Int} {value : Int32} :
      type = .int32 ∨ type = .uint16 → value.toInt = whole →
      Converts type (.whole whole) (.int value)
  | long {type : FieldType} {whole : Int} {value : Int64} :
      type = .int64 ∨ type = .uint32 → value.toInt = whole →
      Converts type (.whole whole) (.long value)
  | float {bits : UInt32} : Converts .float32 (.single bits) (.float bits)
  | double {bits : UInt64} : Converts .float64 (.double bits) (.double bits)
  | text {value : String} : Converts .utf8 (.text value) (.text value)
  | bytes {value : List UInt8} : Converts .binary (.bytes value) (.bytes value)
  | array {item : FieldType} {data : List Datum} {cells : List Cell} :
      cells.length = data.length →
      (∀ (position : Nat) datum cell, data[position]? = some datum →
        cells[position]? = some cell → Converts item datum cell) →
      Converts (.list item) (.many data) (.array cells)
  | shown {type : FieldType} {datum : Datum} {text : String} :
      type.hasCells = false → datum.isNull = false → (type.show datum).text? = some text →
      Converts type datum (.text text)

variable {type item : FieldType} {datum : Datum} {data : List Datum} {cell other : Cell}
  {cells : List Cell}

/-! ## One value -/

theorem cell_null (type : FieldType) : type.cell .null = .ok .null := by
  simp [FieldType.cell]

theorem cell_of_textual (textual : type.hasCells = false) (present : datum.isNull = false) :
    type.cell datum =
      match (type.show datum).text? with
      | some text => .ok (.text text)
      | none => .error .crash := by
  unfold FieldType.cell
  split <;> first | rfl | contradiction

theorem converts_of_whole {least greatest value : Int}
    (range : type.range? = some (least, greatest)) (low : least ≤ value) (high : value ≤ greatest)
    (reads : type.cell (.whole value) = .ok cell) : type.Converts (.whole value) cell := by
  cases type <;> cases range
  case int8 | int16 | uint8 =>
    cases reads
    exact .short (by simp) (Int16.toInt_ofInt_of_le (by omega) (by omega))
  case int32 | uint16 =>
    cases reads
    exact .int (by simp) (Int32.toInt_ofInt_of_le (by omega) (by omega))
  case int64 | uint32 =>
    cases reads
    exact .long (by simp) (Int64.toInt_ofInt_of_le (by omega) (by omega))

theorem converts_of_cell (holds : type.Holds datum) (single : ∀ item, type ≠ .list item)
    (reads : type.cell datum = .ok cell) : type.Converts datum cell := by
  cases holds with
  | null =>
      rw [cell_null] at reads
      cases reads
      exact .null
  | boolean =>
      cases reads
      exact .boolean
  | single =>
      cases reads
      exact .float
  | double =>
      cases reads
      exact .double
  | text =>
      cases reads
      exact .text
  | bytes =>
      cases reads
      exact .bytes
  | many => exact absurd rfl (single _)
  | whole range low high => exact converts_of_whole range low high reads
  | shown textual =>
      cases datum with
      | null =>
          rw [cell_null] at reads
          cases reads
          exact .null
      | _ =>
          rw [cell_of_textual textual rfl] at reads
          split at reads
          next shown =>
            cases reads
            exact .shown textual rfl shown
          · cases reads

theorem cell_of_converts (converts : type.Converts datum cell)
    (single : ∀ item, type ≠ .list item) : type.cell datum = .ok cell := by
  cases converts with
  | null => exact cell_null type
  | boolean | float | double | text | bytes => rfl
  | short types same =>
      subst same
      rcases types with rfl | rfl | rfl <;> simp [FieldType.cell]
  | int types same =>
      subst same
      rcases types with rfl | rfl <;> simp [FieldType.cell]
  | long types same =>
      subst same
      rcases types with rfl | rfl <;> simp [FieldType.cell]
  | array => exact absurd rfl (single _)
  | shown textual present shows => rw [cell_of_textual textual present, shows]

theorem unique_of_single (single : ∀ item, type ≠ .list item)
    (converts : type.Converts datum cell) (again : type.Converts datum other) : cell = other := by
  have first := cell_of_converts converts single
  have second := cell_of_converts again single
  exact Except.ok.inj (first.symm.trans second)

theorem Converts.unique (converts : type.Converts datum cell)
    (again : type.Converts datum other) : cell = other := by
  induction converts generalizing other with
  | null =>
      cases again with
      | null => rfl
      | shown _ present => cases present
  | boolean => exact unique_of_single (by simp) .boolean again
  | float => exact unique_of_single (by simp) .float again
  | double => exact unique_of_single (by simp) .double again
  | text => exact unique_of_single (by simp) .text again
  | bytes => exact unique_of_single (by simp) .bytes again
  | short types same =>
      refine unique_of_single ?_ (.short types same) again
      rcases types with rfl | rfl | rfl <;> simp
  | int types same =>
      refine unique_of_single ?_ (.int types same) again
      rcases types with rfl | rfl <;> simp
  | long types same =>
      refine unique_of_single ?_ (.long types same) again
      rcases types with rfl | rfl <;> simp
  | shown textual present shows =>
      refine unique_of_single ?_ (.shown textual present shows) again
      rintro item rfl
      cases textual
  | @array item data cells size items induction =>
      cases again with
      | shown textual => cases textual
      | @array _ _ others size' items' =>
          apply congrArg Cell.array
          apply List.ext_getElem (size.trans size'.symm)
          intro position within within'
          have bound : position < data.length := size ▸ within
          have here := List.getElem?_eq_getElem bound
          exact induction position _ _ here (List.getElem?_eq_getElem within)
            (items' position _ _ here (List.getElem?_eq_getElem within'))

/-! ## Columns -/

/-- Why values that are shown as text have no texts. -/
inductive Textless (type : FieldType) (data : List Datum) : Breakdown → Prop
  | zone {zone : Zone} :
      type.unknownZone? = some zone → Textless type data (unknownOffset zone)
  | value {datum : Datum} :
      type.unknownZone? = none → datum ∈ data → datum.isNull = false →
      (type.show datum).text? = none → Textless type data .crash

/-- Why the values of a column cannot be converted. The first list with such items decides. -/
def Breaks : FieldType → List Datum → Breakdown → Prop
  | .list item, data, breakdown =>
      ∃ before items after, data = before ++ .many items :: after ∧
        (∀ earlier, .many earlier ∈ before → ∀ other, ¬item.Breaks earlier other) ∧
        item.Breaks items breakdown
  | type, data, breakdown => type.hasCells = false ∧ type.Textless data breakdown

theorem breaks_of_single (single : ∀ item, type ≠ .list item) (breakdown : Breakdown) :
    type.Breaks data breakdown ↔ type.hasCells = false ∧ type.Textless data breakdown := by
  rw [Breaks]
  exact single

theorem Holds.items (holds : (list item).Holds (.many data)) :
    ∀ datum ∈ data, item.Holds datum := by
  cases holds with
  | many items => exact items
  | shown textual => cases textual

theorem cell_eq_error {breakdown : Breakdown} (holds : type.Holds datum)
    (single : ∀ item, type ≠ .list item) (breaks : type.cell datum = .error breakdown) :
    type.hasCells = false ∧ datum.isNull = false ∧ (type.show datum).text? = none := by
  cases holds with
  | null =>
      rw [cell_null] at breaks
      cases breaks
  | boolean | single | double | text | bytes => cases breaks
  | many => exact absurd rfl (single _)
  | whole range => cases type <;> cases range <;> cases breaks
  | shown textual =>
      cases datum with
      | null =>
          rw [cell_null] at breaks
          cases breaks
      | _ =>
          refine ⟨textual, rfl, ?_⟩
          rw [cell_of_textual textual rfl] at breaks
          split at breaks
          · cases breaks
          · assumption

theorem of_listed_error {breakdown : Breakdown}
    (breaks : (match datum with
      | .many data => (item.cells data).map .array
      | _ => .ok .null : Except Breakdown Cell) = .error breakdown) :
    ∃ data, datum = .many data ∧ item.cells data = .error breakdown := by
  cases datum with
  | many data =>
      cases inner : item.cells data with
      | ok => simp [inner, Except.map] at breaks
      | error other =>
          simp only [inner, Except.map] at breaks
          cases breaks
          exact ⟨data, rfl, inner⟩
  | _ => contradiction

theorem cells_eq_error_iff {breakdown : Breakdown} (holds : ∀ datum ∈ data, type.Holds datum) :
    type.cells data = .error breakdown ↔ type.Breaks data breakdown := by
  induction type, data using FieldType.cells.induct generalizing breakdown with
  | case1 item data induction =>
      have items {earlier : List Datum} (member : .many earlier ∈ data) :
          ∀ datum ∈ earlier, item.Holds datum := (holds _ member).items
      rw [cells, Breaks, mapM_eq_error_iff]
      constructor
      · rintro ⟨before, datum, after, rfl, fine, fails⟩
        rcases of_listed_error fails with ⟨data, rfl, inner⟩
        refine ⟨before, data, after, rfl, ?_, (induction data (items (by simp))).mp inner⟩
        intro earlier member other breaks
        apply fine (.many earlier) member other
        rw [← induction earlier (items (by simp [member]))] at breaks
        simp [breaks, Except.map]
      · rintro ⟨before, data, after, rfl, fine, breaks⟩
        refine ⟨before, .many data, after, rfl, ?_, ?_⟩
        · intro datum member other fails
          rcases of_listed_error fails with ⟨earlier, rfl, inner⟩
          rw [induction earlier (items (by simp [member]))] at inner
          exact fine earlier member other inner
        · rw [← induction data (items (by simp))] at breaks
          simp [breaks, Except.map]
  | case2 type data single zone unknown =>
      have textual : type.hasCells = false ∧ type.unknownZone? = some zone := by
        split at unknown
        · cases unknown
        next textual => exact ⟨by simpa using textual, unknown⟩
      simp only [cells_of_single single, breaks_of_single single, unknown]
      constructor
      · intro breaks
        cases breaks
        exact ⟨textual.1, .zone textual.2⟩
      · rintro ⟨_, textless⟩
        cases textless with
        | zone known =>
            cases textual.2.symm.trans known
            rfl
        | value known => cases textual.2.symm.trans known
  | case3 type data single known =>
      simp only [cells_of_single single, breaks_of_single single, known]
      constructor
      · intro breaks
        rcases exists_of_mapM_error breaks with ⟨before, datum, after, rfl, _, fails⟩
        have member : datum ∈ before ++ datum :: after := by simp
        rcases cell_eq_error (holds datum member) single fails with ⟨textual, present, shows⟩
        have certain : type.unknownZone? = none := by simpa [textual] using known
        rw [cell_error fails]
        exact ⟨textual, .value certain member present shows⟩
      · rintro ⟨textual, textless⟩
        cases textless with
        | zone unknown => simp [textual, unknown] at known
        | @value datum _ member present shows =>
            cases reads : data.mapM type.cell with
            | error other =>
                rcases exists_of_mapM_error reads with ⟨_, _, _, _, _, fails⟩
                rw [cell_error fails]
            | ok cells =>
                rcases of_mapM_ok reads member with ⟨cell, reads⟩
                rw [cell_of_textual textual present, shows] at reads
                cases reads

structure ConvertsAll (type : FieldType) (data : List Datum) (cells : List Cell) : Prop where
  length : cells.length = data.length
  cells : ∀ (position : Nat) datum cell, data[position]? = some datum →
    cells[position]? = some cell → type.Converts datum cell

theorem convertsAll_of_mapM {change : Datum → Except Breakdown Cell}
    (reads : data.mapM change = .ok cells)
    (each : ∀ datum ∈ data, ∀ cell, change datum = .ok cell → type.Converts datum cell) :
    type.ConvertsAll data cells where
  length := length_of_mapM reads
  cells position datum cell here there := by
    rcases getElem?_of_mapM reads here with ⟨value, same, changes⟩
    cases there.symm.trans same
    exact each datum (List.mem_of_getElem? here) cell changes

theorem convertsAll_of_cells (holds : ∀ datum ∈ data, type.Holds datum)
    (reads : type.cells data = .ok cells) : type.ConvertsAll data cells := by
  induction type, data using FieldType.cells.induct generalizing cells with
  | case1 item data induction =>
      rw [FieldType.cells] at reads
      apply convertsAll_of_mapM reads
      intro datum member cell changes
      have held := holds datum member
      cases datum with
      | null =>
          cases changes
          exact .null
      | many data =>
          cases inner : item.cells data with
          | error => simp [inner, Except.map] at changes
          | ok cells =>
              simp only [inner, Except.map] at changes
              cases changes
              have items := induction data held.items inner
              exact .array items.length items.cells
      | whole value =>
          cases held with
          | shown textual => cases textual
          | whole range => cases range
      | _ =>
          cases held with
          | shown textual => cases textual
  | case2 type data single zone unknown =>
      simp only [cells_of_single single, unknown] at reads
      cases reads
  | case3 type data single known =>
      simp only [cells_of_single single, known] at reads
      apply convertsAll_of_mapM reads
      intro datum member cell changes
      exact converts_of_cell (holds datum member) single changes

end FieldType

end TableIntake

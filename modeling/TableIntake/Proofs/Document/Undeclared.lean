import TableIntake.Proofs.Cell.BigEndian
import TableIntake.Proofs.Document.Conversion
import TableIntake.Proofs.Store.Filling

/-! # Columns without declarations

A field that declares no datatype has the one that its type stands for. The column of that type
takes the cells of all its values, but for one kind of list: booleans or numbers with a null among
them, which has no bytes to be stored as.
-/

namespace TableIntake

def TypeDeclaration.IsScalar (declaration : TypeDeclaration) : Prop :=
  (∃ datatype ∈ [Datatype.boolean, .short, .int, .long, .float, .double],
    declaration.datatype = datatype.name) ∧
    declaration.arraysize = none ∧ declaration.xtype = none

namespace FieldType

/-- The lists with a null among items that are booleans or numbers by themselves. -/
inductive Gapped : FieldType → Datum → Prop
  | list {item : FieldType} {declaration : TypeDeclaration} {data : List Datum} :
      item.derived? = some declaration → declaration.IsScalar → .null ∈ data →
      Gapped (.list item) (.many data)

def scalar? : FieldType → Option Datatype
  | .boolean => some .boolean
  | .int8 | .int16 | .uint8 => some .short
  | .int32 | .uint16 => some .int
  | .int64 | .uint32 => some .long
  | .float32 => some .float
  | .float64 => some .double
  | _ => none

def storage : FieldType → Storage
  | .boolean | .int8 | .int16 | .uint8 => .int16
  | .int32 | .uint16 => .int32
  | .int64 | .uint32 => .int64
  | .float32 => .float32
  | .float64 => .float64
  | .binary => .binary
  | .list item => if item.scalar?.isSome then .binary else .utf8
  | _ => .utf8

variable {type item : FieldType} {declaration : TypeDeclaration} {datatype : Datatype}
  {datum : Datum} {data : List Datum} {cell : Cell} {cells : List Cell}

/-! ## Declarations -/

theorem arraysize_of_list (derives : (list item).derived? = some declaration) :
    declaration.arraysize = some "*" := by
  rw [derived?] at derives
  split at derives
  · cases derives
    rfl
  · cases derives

theorem derived?_of_scalar (scalar : type.scalar? = some datatype) :
    type.derived? = some { datatype := datatype.name } := by
  cases type <;> cases scalar <;> rfl

theorem scalar?_isSome_iff :
    type.scalar?.isSome = true ↔
      ∃ declaration, type.derived? = some declaration ∧ declaration.IsScalar := by
  constructor
  · intro known
    rcases Option.isSome_iff_exists.mp known with ⟨datatype, scalar⟩
    refine ⟨_, derived?_of_scalar scalar, ⟨datatype, ?_, rfl⟩, rfl, rfl⟩
    cases type <;> cases scalar <;> simp
  · rintro ⟨declaration, derives, _, single, plain⟩
    cases type with
    | list item =>
        rw [arraysize_of_list derives] at single
        cases single
    | utf8 | binary | timestamp =>
        cases derives
        cases single
    | _ => first | rfl | cases derives

theorem derived?_list_of_scalar (scalar : item.scalar? = some datatype) :
    (list item).derived? = some { datatype := datatype.name, arraysize := some "*" } := by
  rw [derived?, derived?_of_scalar scalar]

theorem derived?_list_of_not_scalar (other : item.scalar? = none) :
    (list item).derived? = none := by
  rw [derived?]
  split
  next derives =>
    cases item with
    | list inner => cases arraysize_of_list derives
    | boolean | int8 | int16 | int32 | int64 | uint8 | uint16 | uint32 | float32 | float64 =>
        cases other
    | _ => cases derives
  next => rfl

theorem resolve_derived (type : FieldType) :
    ∃ declared, DeclaredType.resolve (type.derived?.map (·.datatype))
        (type.derived?.bind (·.arraysize)) (type.derived?.bind (·.xtype)) = .ok declared ∧
      declared.stored.storage = type.storage := by
  cases type with
  | list item =>
      cases scalar : item.scalar? with
      | none =>
          rw [derived?_list_of_not_scalar scalar, storage, scalar]
          exact ⟨_, rfl, rfl⟩
      | some datatype =>
          rw [derived?_list_of_scalar scalar, storage, scalar]
          cases item <;> cases scalar <;> exact ⟨_, rfl, rfl⟩
  | _ => exact ⟨_, rfl, rfl⟩

end FieldType

/-- A field without a datatype of its own always has a column. -/
theorem Field.column_of_undeclared {field : Field}
    (undeclared : field.annotation? "datatype" = none) :
    ∃ column, field.declaration.column = .ok column ∧
      column.type.storage = field.type.storage := by
  rcases field.type.resolve_derived with ⟨declared, resolves, stored⟩
  have derives : field.typeDeclaration? = field.type.derived? := by
    rw [typeDeclaration?, undeclared]
  simp only [declaration, derives, FieldDeclaration.column, resolves]
  exact ⟨_, rfl, stored⟩

/-! ## Bytes of lists -/

theorem conversion_array_iff {cells : List Cell} :
    (∃ value, Conversion .binary (.array cells) value) ↔
      ∀ cell ∈ cells, cell.bigEndian? ≠ none := by
  have bytes : (∃ value, Conversion .binary (.array cells) value) ↔
      Cell.allBigEndian? cells ≠ none := by
    rw [Option.ne_none_iff_exists']
    constructor
    · rintro ⟨value, conversion⟩
      cases conversion with
      | number known => exact ⟨_, known⟩
    · rintro ⟨bytes, known⟩
      exact ⟨_, .number known⟩
  rw [bytes, Ne, Cell.allBigEndian?_eq_none_iff]
  simp only [not_exists, not_and, Ne]

namespace FieldType

variable {type item : FieldType} {datum : Datum} {data : List Datum} {cell : Cell}
  {cells : List Cell}

theorem hasCells_of_scalar (scalar : type.scalar?.isSome = true) : type.hasCells = true := by
  cases type <;> first | rfl | cases scalar

theorem Converts.bigEndian?_eq_none_iff (scalar : item.scalar?.isSome = true)
    (converts : item.Converts datum cell) : cell.bigEndian? = none ↔ datum = .null := by
  cases converts with
  | null => simp [Cell.bigEndian?]
  | boolean | short | int | long | float | double => simp [Cell.bigEndian?]
  | text | bytes | array => cases scalar
  | shown textual =>
      rw [hasCells_of_scalar scalar] at textual
      cases textual

theorem gapped_list_iff : (list item).Gapped (.many data) ↔
    item.scalar?.isSome = true ∧ .null ∈ data := by
  rw [scalar?_isSome_iff]
  constructor
  · intro gapped
    cases gapped with
    | list derives scalar null => exact ⟨⟨_, derives, scalar⟩, null⟩
  · rintro ⟨⟨_, derives, scalar⟩, null⟩
    exact .list derives scalar null

theorem bytes_of_items_iff (scalar : item.scalar?.isSome = true) (size : cells.length = data.length)
    (items : ∀ (position : Nat) datum cell, data[position]? = some datum →
      cells[position]? = some cell → item.Converts datum cell) :
    (∀ cell ∈ cells, cell.bigEndian? ≠ none) ↔ .null ∉ data := by
  constructor
  · intro bytes null
    rcases List.mem_iff_getElem?.mp null with ⟨position, here⟩
    have within := (List.getElem?_eq_some_iff.mp here).1
    have there := List.getElem?_eq_getElem (size.symm ▸ within)
    have converts := items position _ _ here there
    apply bytes _ (List.mem_of_getElem? there)
    exact (converts.bigEndian?_eq_none_iff scalar).mpr rfl
  · intro full cell member missing
    rcases List.mem_iff_getElem?.mp member with ⟨position, there⟩
    have within := (List.getElem?_eq_some_iff.mp there).1
    have here := List.getElem?_eq_getElem (size ▸ within)
    have converts := items position _ _ here there
    apply full
    rw [← (converts.bigEndian?_eq_none_iff scalar).mp missing]
    exact List.mem_of_getElem? here

/-- Values of a type have a place in its column, but for lists with gaps. -/
theorem Converts.stored_iff (converts : type.Converts datum cell) :
    (∃ value, Conversion type.storage cell value) ↔ ¬type.Gapped datum := by
  cases converts with
  | @array item data cells size items =>
      rw [gapped_list_iff, storage]
      cases scalar : item.scalar?.isSome with
      | true =>
          rw [if_pos rfl, conversion_array_iff, bytes_of_items_iff scalar size items]
          simp
      | false =>
          rw [if_neg Bool.false_ne_true]
          exact iff_of_true ⟨_, .shown rfl⟩ (by simp)
  | null => exact iff_of_true ⟨_, .null⟩ nofun
  | @boolean value =>
      refine iff_of_true ?_ nofun
      cases value
      · exact ⟨.int16 0, .int16 rfl⟩
      · exact ⟨.int16 1, .int16 rfl⟩
  | short types =>
      refine iff_of_true ?_ nofun
      rcases types with rfl | rfl | rfl <;> exact ⟨_, .int16 rfl⟩
  | int types =>
      refine iff_of_true ?_ nofun
      rcases types with rfl | rfl <;> exact ⟨_, .int32 rfl⟩
  | long types =>
      refine iff_of_true ?_ nofun
      rcases types with rfl | rfl <;> exact ⟨_, .int64 rfl⟩
  | float => exact iff_of_true ⟨_, .float32 rfl⟩ nofun
  | double => exact iff_of_true ⟨_, .float64 rfl⟩ nofun
  | text => exact iff_of_true ⟨_, .shown rfl⟩ nofun
  | bytes => exact iff_of_true ⟨_, .bytes⟩ nofun
  | @shown _ _ text textual =>
      have place : type.storage = .utf8 := by
        cases type <;> first | rfl | cases textual
      rw [place]
      refine iff_of_true ⟨_, .shown rfl⟩ ?_
      intro gapped
      cases gapped
      cases textual

end FieldType

end TableIntake

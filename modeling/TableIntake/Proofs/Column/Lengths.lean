import TableIntake.Exchange
import TableIntake.Proofs.Json.Slots

/-! # Lengths of stored types

Only strings of characters and bytes may have a length. The types that declarations resolve to keep
to that. A document that is read back may say otherwise, and is believed.
-/

namespace TableIntake

open Json

def StoredType.LengthFits (stored : StoredType) : Prop :=
  stored.length.isSome = true → stored.kind.hasLength = true

/-! ## Types that are built -/

namespace StoredType

theorem lengthFits_plain (kind : Kind) : (plain kind).LengthFits :=
  nofun

theorem lengthFits_sized (kind : Kind) (length : UInt32) : (sized kind length).LengthFits := by
  rw [sized]
  split
  · rename_i has
    exact fun _ => has
  · exact lengthFits_plain kind

end StoredType

namespace DeclaredType

variable (declared : DeclaredType)

open StoredType

theorem lengthFits_storedNumber (kind : Kind) : (declared.storedNumber kind).LengthFits :=
  lengthFits_plain _

theorem lengthFits_storedBytes : declared.storedBytes.LengthFits := by
  rw [storedBytes]
  split
  · exact lengthFits_plain _
  split
  · exact lengthFits_plain _
  · exact lengthFits_sized _ _
  · exact lengthFits_sized _ _
  · exact lengthFits_plain _

theorem lengthFits_storedText : declared.storedText.LengthFits := by
  rw [storedText]
  iterate 4
    split
    · exact lengthFits_plain _
  split
  · exact lengthFits_sized _ _
  · exact lengthFits_sized _ _
  · exact lengthFits_sized _ _
  · exact lengthFits_plain _

theorem lengthFits_stored : declared.stored.LengthFits := by
  rw [stored]
  split
  · exact declared.lengthFits_storedNumber _
  · exact declared.lengthFits_storedNumber _
  · exact declared.lengthFits_storedNumber _
  · exact declared.lengthFits_storedNumber _
  · exact declared.lengthFits_storedNumber _
  · exact declared.lengthFits_storedNumber _
  · exact declared.lengthFits_storedBytes
  · exact declared.lengthFits_storedBytes
  · exact declared.lengthFits_storedText
  · exact declared.lengthFits_storedText
  · exact lengthFits_plain _
  · exact lengthFits_plain _

end DeclaredType

theorem FieldDeclaration.lengthFits_column {field : FieldDeclaration} {column : Column}
    (resolves : field.column = .ok column) : column.type.LengthFits := by
  rw [FieldDeclaration.column] at resolves
  split at resolves
  · cases resolves
  · rename_i declared _
    cases resolves
    exact declared.lengthFits_stored

theorem Header.lengthFits_metadata {header : Header} {columns : Metadata}
    (resolves : Header.metadata header = .ok columns) :
    ∀ column ∈ columns, column.type.LengthFits := by
  induction header generalizing columns with
  | nil =>
      cases resolves
      exact List.forall_mem_nil _
  | cons field rest induction =>
      rw [Header.metadata] at resolves
      cases first : field.column with
      | error =>
          rw [first] at resolves
          cases resolves
      | ok column =>
          cases others : Header.metadata rest with
          | error =>
              rw [first, others] at resolves
              cases resolves
          | ok columns =>
              rw [first, others] at resolves
              cases resolves
              exact List.forall_mem_cons.mpr ⟨field.lengthFits_column first, induction others⟩

/-! ## Types that are read back -/

inductive Kind.Named : Json → Kind → Prop
  | text (kind : Kind) : Named (.text kind.name) kind
  | variant (kind : Kind) : Named (.object [(kind.name, .null)]) kind

/-- The document states a length for a kind without lengths. -/
def StoredType.Overstated (json : Json) : Prop :=
  ∃ named kind length, Gives 0 "datatype" json named ∧ Kind.Named named kind ∧
    kind.hasLength = false ∧ Gives 1 "length" json length ∧ length ≠ .null

def Column.Overstated (json : Json) : Prop :=
  ∃ type, Gives 1 "datatype" json type ∧ StoredType.Overstated type

def Metadata.Overstated (json : Json) : Prop :=
  ∃ columns, Gives 0 "columns" json (.array columns) ∧ ∃ column ∈ columns, Column.Overstated column

theorem Kind.ofName?_eq_some_iff {name : String} {kind : Kind} :
    ofName? name = some kind ↔ name = kind.name := by
  constructor
  · intro found
    rw [ofName?] at found
    have same := List.find?_some found
    exact (beq_iff_eq.mp same).symm
  · rintro rfl
    exact ofName?_name kind

theorem Kind.ofJson?_eq_some_iff {json : Json} {kind : Kind} :
    ofJson? json = some kind ↔ Named json kind := by
  constructor
  · intro read
    rw [ofJson?, choice?.eq_def] at read
    split at read
    · cases ofName?_eq_some_iff.mp read
      exact .text kind
    · cases ofName?_eq_some_iff.mp read
      exact .variant kind
    · cases read
  · intro named
    cases named <;> exact ofName?_name kind

namespace StoredType

variable {json : Json} {stored : StoredType}

theorem ofJson?_slots (read : ofJson? json = some stored) :
    (json.slot 0 "datatype").required? Kind.ofJson? = some stored.kind ∧
      (json.slot 1 "length").optional? word32? = some stored.length := by
  rw [ofJson?] at read
  rcases Option.bind_eq_some_iff.mp read with ⟨slots, found, read⟩
  obtain rfl : slots = [json.slot 0 "datatype", json.slot 1 "length"] := slots?_eq_some found
  rcases Option.bind_eq_some_iff.mp read with ⟨kind, named, read⟩
  rcases Option.bind_eq_some_iff.mp read with ⟨length, limited, read⟩
  cases read
  exact ⟨named, limited⟩

theorem lengthFits_iff_of_ofJson? (read : ofJson? json = some stored) :
    stored.LengthFits ↔ ¬Overstated json := by
  rcases ofJson?_slots read with ⟨named, limited⟩
  rcases Slot.required?_eq_some_iff.mp named with ⟨kindJson, given, named⟩
  have kindGiven := slot_eq_given_iff.mp given
  have lengthGiven := Slot.optional?_isSome_iff limited
  constructor
  · rintro fits ⟨otherJson, kind, length, otherGiven, otherNamed, without, given, present⟩
    cases otherGiven.unique kindGiven
    cases (Kind.ofJson?_eq_some_iff.mpr otherNamed).symm.trans named
    have has := fits (lengthGiven.mpr ⟨length, slot_eq_given_iff.mpr given, present⟩)
    rw [without] at has
    cases has
  · intro honest has
    rcases lengthGiven.mp has with ⟨length, given, present⟩
    apply Bool.of_not_eq_false
    intro without
    exact honest ⟨kindJson, stored.kind, length, kindGiven, Kind.ofJson?_eq_some_iff.mp named,
      without, slot_eq_given_iff.mp given, present⟩

end StoredType

namespace Column

variable {json : Json} {column : Column}

theorem ofJson?_type (read : ofJson? json = some column) :
    ∃ type, Gives 1 "datatype" json type ∧ StoredType.ofJson? type = some column.type := by
  rw [ofJson?] at read
  rcases Option.bind_eq_some_iff.mp read with ⟨slots, found, read⟩
  obtain rfl : slots = [json.slot 0 "name", json.slot 1 "datatype", json.slot 2 "description",
      json.slot 3 "unit", json.slot 4 "ucd", json.slot 5 "utype", json.slot 6 "principal",
      json.slot 7 "indexed", json.slot 8 "std"] := slots?_eq_some found
  simp only [Option.bind_eq_bind, Option.bind_eq_some_iff] at read
  rcases read with ⟨name, _, type, typed, description, _, unit, _, ucd, _, utype, _, principal, _,
    indexed, _, std, _, ⟨⟩⟩
  rcases Slot.required?_eq_some_iff.mp typed with ⟨json, given, typed⟩
  exact ⟨json, slot_eq_given_iff.mp given, typed⟩

theorem lengthFits_iff_of_ofJson? (read : ofJson? json = some column) :
    column.type.LengthFits ↔ ¬Overstated json := by
  rcases ofJson?_type read with ⟨type, given, typed⟩
  rw [StoredType.lengthFits_iff_of_ofJson? typed]
  apply not_congr
  constructor
  · intro overstated
    exact ⟨type, given, overstated⟩
  · rintro ⟨other, otherGiven, overstated⟩
    cases otherGiven.unique given
    exact overstated

end Column

namespace Metadata

variable {json : Json} {columns : Metadata}

theorem ofJson?_columns (read : ofJson? json = some columns) :
    ∃ elements, Gives 0 "columns" json (.array elements) ∧
      elements.mapM Column.ofJson? = some columns := by
  rw [ofJson?] at read
  rcases Option.bind_eq_some_iff.mp read with ⟨slots, found, read⟩
  obtain rfl : slots = [json.slot 0 "columns"] := slots?_eq_some found
  rcases Slot.required?_eq_some_iff.mp read with ⟨list, given, read⟩
  cases list with
  | array elements => exact ⟨elements, slot_eq_given_iff.mp given, read⟩
  | _ => cases read

theorem forall_lengthFits_iff {elements : List Json}
    (read : List.Forall₂ (fun json column => Column.ofJson? json = some column) elements columns) :
    (∀ column ∈ columns, column.type.LengthFits) ↔
      ∀ element ∈ elements, ¬Column.Overstated element := by
  induction read with
  | nil => simp
  | cons head _ induction =>
      rw [List.forall_mem_cons, List.forall_mem_cons, induction,
        Column.lengthFits_iff_of_ofJson? head]

theorem lengthFits_iff_of_ofJson? (read : ofJson? json = some columns) :
    (∀ column ∈ columns, column.type.LengthFits) ↔ ¬Overstated json := by
  rcases ofJson?_columns read with ⟨elements, given, read⟩
  rw [forall_lengthFits_iff (forall₂_of_mapM read)]
  constructor
  · rintro honest ⟨others, otherGiven, element, member, overstated⟩
    cases otherGiven.unique given
    exact honest element member overstated
  · intro honest element member overstated
    exact honest ⟨elements, given, element, member, overstated⟩

end Metadata

/-- Every way to a stored type gives one whose length fits its kind, but for a document that itself
states a length for a kind without lengths. Such a document is taken as it stands. -/
theorem StoredType.lengthFits_unless_overstated (kind : Kind) (length : UInt32)
    (declared : DeclaredType) (header : Header) (json : Json) :
    (plain kind).LengthFits ∧ (sized kind length).LengthFits ∧ unboundedText.LengthFits ∧
      declared.stored.LengthFits ∧
      (∀ columns, header.metadata = .ok columns → ∀ column ∈ columns, column.type.LengthFits) ∧
      (∀ stored, ofJson? json = some stored → (stored.LengthFits ↔ ¬Overstated json)) ∧
      (∀ column, Column.ofJson? json = some column →
        (column.type.LengthFits ↔ ¬Column.Overstated json)) ∧
      ∀ columns, Metadata.ofJson? json = some columns →
        ((∀ column ∈ columns, column.type.LengthFits) ↔ ¬Metadata.Overstated json) := by
  refine ⟨lengthFits_plain kind, lengthFits_sized kind length, lengthFits_plain .varchar,
    declared.lengthFits_stored, ?_, ?_, ?_, ?_⟩
  · exact fun _ => Header.lengthFits_metadata
  · exact fun _ => lengthFits_iff_of_ofJson?
  · exact fun _ => Column.lengthFits_iff_of_ofJson?
  · exact fun _ => Metadata.lengthFits_iff_of_ofJson?

theorem StoredType.lengthFits_unless_overstated_of_integer :
    let json := Json.object [("datatype", .text "INTEGER"), ("length", .whole 8)]
    ofJson? json = some ⟨.integer, some 8⟩ ∧ Overstated json ∧
      ¬(StoredType.mk .integer (some 8)).LengthFits := by
  intro json
  have read : ofJson? json = some ⟨.integer, some 8⟩ := rfl
  have overstated : Overstated json :=
    ⟨.text "INTEGER", .integer, .whole 8, .member rfl, .text .integer, rfl, .member rfl, nofun⟩
  have settled := lengthFits_unless_overstated .integer 8 .undeclared [] json
  refine ⟨read, overstated, ?_⟩
  intro fits
  exact (settled.2.2.2.2.2.1 _ read).mp fits overstated

theorem StoredType.not_lengthFits_of_ofJson? :
    ¬∀ json stored, ofJson? json = some stored → stored.LengthFits := by
  intro fits
  have read : ofJson? (.object [("datatype", .text "INTEGER"), ("length", .whole 8)]) =
      some ⟨.integer, some 8⟩ := rfl
  have has := fits _ _ read rfl
  cases has

end TableIntake

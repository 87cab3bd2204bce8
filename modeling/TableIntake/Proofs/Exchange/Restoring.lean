import TableIntake.Exchange
import TableIntake.Proofs.Json.Slots

/-! # What is written reads back

Every value of an exchanged type is read back from the document that it is written to. Missing
fields get their defaults once, when a document is first read. From then on nothing changes.
-/

namespace TableIntake

namespace Json

/-- Values written by `encode` are restored by `decode?`, and a document that is read settles: the
value keeps through any further writing and reading. -/
structure Restores {α : Type} (encode : α → Json) (decode? : Json → Option α) : Prop where
  back : ∀ value, decode? (encode value) = some value
  settled : ∀ json value, decode? json = some value → decode? (encode value) = some value

section

variable {α : Type} {encode : α → Json} {decode? : Json → Option α}

theorem Restores.of_back (back : ∀ value, decode? (encode value) = some value) :
    Restores encode decode? :=
  ⟨back, fun _ value _ => back value⟩

/-! ## Numbers -/

theorem natural?_whole {bound value : Nat} (small : value < bound) :
    (whole value).natural? bound = some value := by
  rw [natural?, if_pos (by omega), Int.toNat_natCast]

@[simp]
theorem word32?_ofWord32 (value : UInt32) : word32? (ofWord32 value) = some value := by
  rw [word32?, ofWord32, natural?_whole value.toNat_lt_size, Option.map_some, UInt32.ofNat_toNat]

@[simp]
theorem word64?_ofWord64 (value : UInt64) : word64? (ofWord64 value) = some value := by
  rw [word64?, ofWord64, natural?_whole value.toNat_lt_size, Option.map_some, UInt64.ofNat_toNat]

/-! ## Values that may be missing -/

theorem nullable?_encode (back : ∀ value, decode? (encode value) = some value)
    (present : ∀ value, encode value ≠ .null) (value : α) :
    (encode value).nullable? decode? = some (some value) := by
  rw [nullable?_of_ne_null (present value), back, Option.map_some]

theorem nullable?_ofOption (back : ∀ value, decode? (encode value) = some value)
    (present : ∀ value, encode value ≠ .null) (value : Option α) :
    (ofOption encode value).nullable? decode? = some value := by
  cases value with
  | none => rfl
  | some value => exact nullable?_encode back present value

theorem orElse?_map (back : ∀ value, decode? (encode value) = some value)
    (present : ∀ value, encode value ≠ .null) (value : Option α) :
    (ofMember (value.map encode)).orElse? none (nullable? decode?) = some value := by
  cases value with
  | none => rfl
  | some value => exact nullable?_encode back present value

/-! ## Arrays -/

theorem list?_map (back : ∀ value, decode? (encode value) = some value) (values : List α) :
    list? decode? (.array (values.map encode)) = some values := by
  rw [list?]
  induction values with
  | nil => rfl
  | cons value rest induction =>
    rw [List.map_cons, List.mapM_cons, back, induction]
    rfl

end

end Json

open Json

theorem LimitUnit.restores : Restores toJson ofJson? :=
  .of_back LimitUnit.ofName?_name

theorem Kind.restores : Restores toJson ofJson? :=
  .of_back Kind.ofName?_name

/-! ## Structures without optional members -/

theorem Quota.slots?_toJson (quota : Quota) : quota.toJson.slots? ["unit", "limit"] =
    some [.given quota.unit.toJson, .given (ofWord64 quota.limit)] := by
  simp [toJson, slots?, givesOnce, List.lookup_cons, ofMember]

theorem Quota.restores : Restores toJson ofJson? := by
  apply Restores.of_back
  intro quota
  have unit := LimitUnit.restores.back quota.unit
  simp [ofJson?, slots?_toJson, Slot.orElse?, unit]

theorem StoredType.slots?_toJson (stored : StoredType) :
    stored.toJson.slots? ["datatype", "length"] =
      some [.given stored.kind.toJson, .given (ofOption ofWord32 stored.length)] := by
  simp [toJson, slots?, givesOnce, List.lookup_cons, ofMember]

theorem StoredType.restores : Restores toJson ofJson? := by
  apply Restores.of_back
  intro stored
  have kind := Kind.restores.back stored.kind
  have length := nullable?_ofOption word32?_ofWord32 nofun stored.length
  simp [ofJson?, slots?_toJson, Slot.required?, Slot.optional?, kind, length]

theorem Column.slots?_toJson (column : Column) :
    column.toJson.slots? ["name", "datatype", "description", "unit", "ucd", "utype", "principal",
        "indexed", "std"] =
      some [.given (.text column.name), .given column.type.toJson,
        .given (ofOption .text column.description), .given (ofOption .text column.unit),
        .given (ofOption .text column.ucd), .given (ofOption .text column.utype),
        .given (.boolean column.principal), .given (.boolean column.indexed),
        .given (.boolean column.std)] := by
  simp [toJson, slots?, givesOnce, List.lookup_cons, ofMember]

theorem Column.restores : Restores toJson ofJson? := by
  apply Restores.of_back
  intro column
  have type := StoredType.restores.back column.type
  have annotation : ∀ value : Option String,
      (ofOption .text value).nullable? text? = some value :=
    nullable?_ofOption (fun _ => rfl) nofun
  simp [ofJson?, slots?_toJson, Slot.required?, Slot.optional?, type, annotation, text?, boolean?]

theorem Metadata.slots?_toJson (columns : Metadata) : columns.toJson.slots? ["columns"] =
    some [.given (.array (columns.map Column.toJson))] := by
  simp [toJson, slots?, givesOnce, ofMember]

theorem Metadata.restores : Restores toJson ofJson? := by
  apply Restores.of_back
  intro columns
  have columnsBack := list?_map Column.restores.back columns
  simp [ofJson?, slots?_toJson, Slot.required?, columnsBack]

/-! ## Structures with optional members -/

theorem LimitSettings.closedSlots?_toJson (settings : LimitSettings) :
    settings.toJson.closedSlots? ["unit", "limit"] =
      some [.given settings.unit.toJson, ofMember (settings.limit.map ofWord64)] := by
  rcases settings with ⟨unit, limit⟩
  cases limit <;>
    simp [toJson, closedSlots?, hasOnly, slots?, givesOnce, List.lookup_cons, ofMember,
      optionalMember]

theorem LimitSettings.restores : Restores toJson ofJson? := by
  apply Restores.of_back
  intro settings
  have unit := LimitUnit.restores.back settings.unit
  have limit := orElse?_map word64?_ofWord64 nofun settings.limit
  simp only [ofJson?, closedSlots?_toJson, Option.bind_eq_bind, Option.bind_some, limit]
  simp [Slot.orElse?, unit]

theorem Settings.closedSlots?_toJson (settings : Settings) :
    settings.toJson.closedSlots? ["enabled", "format", "limit", "wait_timeout_ms"] =
      some [.given (.boolean settings.enabled), .given (.text settings.format),
        .given settings.limit.toJson, ofMember (settings.waitTimeout.map ofWord64)] := by
  rcases settings with ⟨enabled, format, limit, waitTimeout⟩
  cases waitTimeout <;>
    simp [toJson, closedSlots?, hasOnly, slots?, givesOnce, List.lookup_cons, ofMember,
      optionalMember]

theorem Settings.restores : Restores toJson ofJson? := by
  apply Restores.of_back
  intro settings
  have limit := LimitSettings.restores.back settings.limit
  have waitTimeout := orElse?_map word64?_ofWord64 nofun settings.waitTimeout
  simp only [ofJson?, closedSlots?_toJson, Option.bind_eq_bind, Option.bind_some, waitTimeout]
  simp [Slot.orElse?, limit, boolean?, text?]

/-- Every exchanged type restores what it writes, from a unit to whole settings. -/
theorem exchanged_restores :
    Restores LimitUnit.toJson LimitUnit.ofJson? ∧ Restores Quota.toJson Quota.ofJson? ∧
      Restores Kind.toJson Kind.ofJson? ∧ Restores StoredType.toJson StoredType.ofJson? ∧
      Restores Column.toJson Column.ofJson? ∧ Restores Metadata.toJson Metadata.ofJson? ∧
      Restores Settings.toJson Settings.ofJson? :=
  ⟨LimitUnit.restores, Quota.restores, Kind.restores, StoredType.restores, Column.restores,
    Metadata.restores, Settings.restores⟩

end TableIntake

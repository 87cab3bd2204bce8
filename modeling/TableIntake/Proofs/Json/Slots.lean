import Mathlib.Data.List.Forall2
import TableIntake.Json

/-! # What a slot holds

A field of a structure is a member by its name or an element by its position. What is decoded from
the slots of a document says what the document gives for the fields.
-/

namespace TableIntake.Json

inductive Gives (position : Nat) (name : String) : Json → Json → Prop
  | member {members : List (String × Json)} {value : Json}
      (found : members.lookup name = some value) : Gives position name (.object members) value
  | element {elements : List Json} {value : Json} (found : elements[position]? = some value) :
      Gives position name (.array elements) value

def slot (position : Nat) (name : String) : Json → Slot
  | .object members => ofMember (members.lookup name)
  | .array elements => ofElement elements[position]?
  | _ => .absent

section

variable {json value : Json} {position : Nat} {name : String}

theorem slot_eq_given_iff : json.slot position name = .given value ↔
    Gives position name json value := by
  constructor
  · intro given
    cases json with
    | object members =>
        cases found : members.lookup name with
        | none => simp [slot, found, ofMember] at given
        | some other =>
            rw [slot, found] at given
            cases given
            exact .member found
    | array elements =>
        cases found : elements[position]? with
        | none => simp [slot, found, ofElement] at given
        | some other =>
            rw [slot, found] at given
            cases given
            exact .element found
    | _ => cases given
  · intro gives
    cases gives with
    | member found => rw [slot, found, ofMember]
    | element found => rw [slot, found, ofElement]

theorem Gives.unique {other : Json} (gives : Gives position name json value)
    (again : Gives position name json other) : other = value := by
  have same := (slot_eq_given_iff.mpr again).symm.trans (slot_eq_given_iff.mpr gives)
  cases same
  rfl

theorem slots?_eq_some {names : List String} {slots : List Slot}
    (found : json.slots? names = some slots) :
    slots = names.mapIdx fun position name => json.slot position name := by
  apply List.ext_getElem?
  intro position
  cases json with
  | object members =>
      rw [slots?] at found
      split at found
      · cases found
        simp [slot]
      · cases found
  | array elements =>
      rw [slots?] at found
      split at found
      · cases found
        rw [List.getElem?_mapIdx, List.getElem?_map]
        by_cases within : position < names.length
        · rw [List.getElem?_range within, List.getElem?_eq_getElem within]
          rfl
        · simp [Nat.not_lt.mp within]
      · cases found
  | _ => cases found

end

/-! ## Slots decoded -/

theorem nullable?_of_ne_null {α : Type} {decode : Json → Option α} {json : Json}
    (present : json ≠ .null) :
    json.nullable? decode = (decode json).map some := by
  cases json with
  | null => exact absurd rfl present
  | _ => rfl

namespace Slot

variable {α : Type} {decode : Json → Option α} {slot : Slot}

theorem required?_eq_some_iff {value : α} : slot.required? decode = some value ↔
    ∃ json, slot = .given json ∧ decode json = some value := by
  cases slot <;> simp [required?]

theorem optional?_isSome_iff {value : Option α} (taken : slot.optional? decode = some value) :
    value.isSome = true ↔ ∃ json, slot = .given json ∧ json ≠ .null := by
  cases slot with
  | absent =>
      cases taken
      simp
  | short => cases taken
  | given json =>
      by_cases present : json = .null
      · cases present
        cases taken
        simp
      · rw [optional?, nullable?_of_ne_null present] at taken
        rcases Option.map_eq_some_iff.mp taken with ⟨decoded, _, rfl⟩
        simp [present]

end Slot

/-! ## Arrays decoded -/

theorem forall₂_of_mapM {α : Type} {decode : Json → Option α} {elements : List Json}
    {values : List α} (decoded : elements.mapM decode = some values) :
    List.Forall₂ (fun json value => decode json = some value) elements values := by
  induction elements generalizing values with
  | nil =>
      cases decoded
      exact .nil
  | cons first rest induction =>
      rw [List.mapM_cons] at decoded
      rcases Option.bind_eq_some_iff.mp decoded with ⟨value, head, decoded⟩
      rcases Option.bind_eq_some_iff.mp decoded with ⟨others, tail, decoded⟩
      cases decoded
      exact .cons head (induction tail)

end TableIntake.Json

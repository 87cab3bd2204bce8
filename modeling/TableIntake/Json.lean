/-! # JSON values

Values with the slots that the fields of a structure are taken from.
-/

namespace TableIntake

/-- A number that is not written as a whole one is only known as a fraction. -/
inductive Json where
  | null
  | boolean (value : Bool)
  | whole (value : Int)
  | fraction
  | text (value : String)
  | array (elements : List Json)
  | object (members : List (String × Json))
deriving BEq, Repr, Inhabited

namespace Json

def boolean? : Json → Option Bool
  | .boolean value => some value
  | _ => none

def text? : Json → Option String
  | .text value => some value
  | _ => none

def natural? (bound : Nat) : Json → Option Nat
  | .whole value => if 0 ≤ value ∧ value < bound then some value.toNat else none
  | _ => none

def word32? (json : Json) : Option UInt32 :=
  (json.natural? UInt32.size).map UInt32.ofNat

def word64? (json : Json) : Option UInt64 :=
  (json.natural? UInt64.size).map UInt64.ofNat

def list? (decode : Json → Option α) : Json → Option (List α)
  | .array elements => elements.mapM decode
  | _ => none

def nullable? (decode : Json → Option α) : Json → Option (Option α)
  | .null => some none
  | json => (decode json).map some

/-- A choice is its name, or an object that maps its name to null. -/
def choice? (ofName? : String → Option α) : Json → Option α
  | .text name => ofName? name
  | .object [(name, .null)] => ofName? name
  | _ => none

/-! ## Structures -/

/-- Where a field of a structure is looked for. An object may lack the field, and an array
may be too short for it. -/
inductive Slot where
  | given (json : Json)
  | absent
  | short

namespace Slot

def required? (decode : Json → Option α) : Slot → Option α
  | .given json => decode json
  | .absent | .short => none

def optional? (decode : Json → Option α) : Slot → Option (Option α)
  | .given json => json.nullable? decode
  | .absent => some none
  | .short => none

def orElse? (value : α) (decode : Json → Option α) : Slot → Option α
  | .given json => decode json
  | .absent | .short => some value

end Slot

def ofMember : Option Json → Slot
  | some json => .given json
  | none => .absent

def ofElement : Option Json → Slot
  | some json => .given json
  | none => .short

def givesOnce (names : List String) (members : List (String × Json)) : Bool :=
  names.all fun name => members.countP (fun member => member.1 == name) ≤ 1

/-- The slots of the named fields. An object gives them by name, each of them once, and an array
without more elements than names by position. -/
def slots? (names : List String) : Json → Option (List Slot)
  | .object members =>
      if givesOnce names members then
        some (names.map fun name => ofMember (members.lookup name))
      else
        none
  | .array elements =>
      if elements.length ≤ names.length then
        some ((List.range names.length).map fun position => ofElement elements[position]?)
      else
        none
  | _ => none

example : slots? ["limit"] (.object [("limit", .null), ("limit", .null)]) = none := rfl

def hasOnly (names : List String) : Json → Bool
  | .object members => members.all fun member => names.contains member.1
  | _ => true

def closedSlots? (names : List String) (json : Json) : Option (List Slot) :=
  if json.hasOnly names then json.slots? names else none

def optionalMember (name : String) (encode : α → Json) : Option α → List (String × Json)
  | some value => [(name, encode value)]
  | none => []

def ofOption (encode : α → Json) : Option α → Json
  | some value => encode value
  | none => .null

def ofWord32 (value : UInt32) : Json :=
  .whole value.toNat

def ofWord64 (value : UInt64) : Json :=
  .whole value.toNat

end Json

end TableIntake

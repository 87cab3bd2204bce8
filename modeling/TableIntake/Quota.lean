import TableIntake.Text.Letters

/-! # Quotas

A limit on the rows or the bytes that may be read from one table.
-/

namespace TableIntake

inductive LimitUnit where
  | none
  | rows
  | bytes
deriving DecidableEq, Repr

namespace LimitUnit

def name : LimitUnit → String
  | .none => "none"
  | .rows => "rows"
  | .bytes => "bytes"

def all : List LimitUnit :=
  [.none, .rows, .bytes]

def ofName? (name : String) : Option LimitUnit :=
  all.find? (·.name == name)

/-- The unit that `text` names in any letter case, in the plural or the singular. The
refusal shows the text in lower case. -/
def ofText (text : String) : Except String LimitUnit :=
  match Text.fold text with
  | "none" => .ok .none
  | "rows" | "row" => .ok .rows
  | "bytes" | "byte" => .ok .bytes
  | other => .error ("unknown limit unit \"" ++ other ++ "\"")

@[simp] theorem ofName?_name (unit : LimitUnit) : ofName? unit.name = some unit := by
  cases unit <;> rfl

end LimitUnit

structure Quota where
  unit : LimitUnit
  limit : UInt64
deriving DecidableEq, Repr

namespace Quota

def unlimited : Quota :=
  ⟨.none, 0⟩

def isEnabled (quota : Quota) : Bool :=
  quota.unit != .none

/-- What one row of `size` bytes adds to the count. -/
def cost (quota : Quota) (size : Nat) : Nat :=
  match quota.unit with
  | .none => 0
  | .rows => 1
  | .bytes => size

/-- The count after `cost` more. It stays at its greatest value. -/
def count (consumed : UInt64) (cost : Nat) : UInt64 :=
  UInt64.ofNat (min (consumed.toNat + cost) (UInt64.size - 1))

/-- Whether a count is beyond the limit. Without a unit nothing is counted. -/
def isExceeded (quota : Quota) (consumed : UInt64) : Bool :=
  quota.isEnabled && decide (quota.limit < consumed)

theorem toNat_count (consumed : UInt64) (cost : Nat) :
    (count consumed cost).toNat = min (consumed.toNat + cost) (UInt64.size - 1) := by
  unfold count
  rw [UInt64.toNat_ofNat']
  exact Nat.mod_eq_of_lt (by simp only [UInt64.size]; omega)

end Quota

end TableIntake

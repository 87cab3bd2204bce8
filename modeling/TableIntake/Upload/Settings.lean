import TableIntake.Registry
import TableIntake.Text.Blank

/-! # Settings of an intake -/

namespace TableIntake

structure LimitSettings where
  unit : LimitUnit := .none
  limit : Option UInt64 := none
deriving DecidableEq, Repr

structure Settings where
  enabled : Bool := true
  format : String := TableParser.documentFormat
  limit : LimitSettings := {}
  waitTimeout : Option UInt64 := none
deriving DecidableEq, Repr

namespace Settings

/-- A limit of zero or without a unit limits nothing. -/
def quota (settings : Settings) : Quota :=
  match settings.limit.unit, settings.limit.limit with
  | .none, _ | _, none => .unlimited
  | unit, some limit => if limit = 0 then .unlimited else ⟨unit, limit⟩

def isImpatient (settings : Settings) : Bool :=
  settings.waitTimeout.isSome

/-- Why settings read from a file are refused. The first of three rules that is broken
counts. -/
def problem? (settings : Settings) : Option String :=
  if Text.isAllBlank settings.format then
    some "format cannot be empty"
  else if settings.limit.unit ≠ .none ∧ settings.limit.limit = none then
    some ("limit.limit is required when limit.unit is " ++ settings.limit.unit.name)
  else if settings.waitTimeout = some 0 then
    some "wait_timeout_ms must be greater than 0"
  else
    none

end Settings

end TableIntake

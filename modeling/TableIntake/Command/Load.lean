import TableIntake.Command.Outcome
import TableIntake.Command.Table

/-! # Loading uploads

Loads uploads under a quota and shows the tables that this gives.
-/

namespace TableIntake

structure LimitOverrides where
  unit : Option LimitUnit := none
  limit : Option UInt64 := none
deriving DecidableEq, Repr

def LimitOverrides.apply (overrides : LimitOverrides) (settings : Settings) : Settings :=
  { settings with
    limit :=
      { unit := overrides.unit.getD settings.limit.unit
        limit := overrides.limit.or settings.limit.limit } }

namespace Load

def text (catalogue : Catalogue) (table : UploadedTable) (stored : StoredTable) : String :=
  table.label ++ " -> " ++ catalogue.name ++ "." ++ table.dbName ++ " (" ++ toString table.rows ++
    " rows)\n" ++ stored.drawing ++ "\n"

def tableMissing (dbName : String) : Trouble :=
  .other ("Table " ++ dbName ++ " missing from the destination") []

/-- The tables of a catalogue in the order of their registration, up to the first one that the
store does not have. -/
def texts (catalogue : Catalogue) (store : Store) :
    List UploadedTable → List String × Option Trouble
  | [] => ([], none)
  | table :: rest =>
      match store.table? table.dbName with
      | none => ([], some (tableMissing table.dbName))
      | some stored =>
          let (others, trouble) := texts catalogue store rest
          (text catalogue table stored :: others, trouble)

def limitMissing (unit : LimitUnit) : Trouble :=
  .other ("--limit is required with --limit-unit " ++ unit.name) []

/-- Shows all the uploads, or none of them if one fails. -/
def run (files : Files) (settings : Settings) (overrides : LimitOverrides)
    (arrivals : List Arrival) : Outcome :=
  let settings := overrides.apply settings
  if settings.limit.unit ≠ .none ∧ settings.limit.limit = none then
    ⟨[], some (limitMissing settings.limit.unit), []⟩
  else
    match Loader.create settings .standard with
    | .error fault => ⟨[], some (.upload fault), []⟩
    | .ok loader =>
        match { loader with files := files }.upload arrivals with
        | (some fault, loader) => ⟨[], some (.upload fault), loader.notices⟩
        | (none, loader) =>
            let (outputs, trouble) := texts loader.catalogue loader.store loader.catalogue.tables
            ⟨outputs, trouble, loader.notices⟩

end Load

end TableIntake

import TableIntake.Store
import TableIntake.Text.Letters

/-! # Catalogues

The database schema that uploaded tables are registered in.
-/

namespace TableIntake

structure Catalogue where
  name : String
  description : String
  tables : List UploadedTable := []
deriving DecidableEq, Repr

namespace Catalogue

def requiredName : String :=
  "TAP_UPLOAD"

def standard : Catalogue :=
  { name := requiredName, description := "Schema for tables uploaded by users." }

/-- An empty catalogue. Its name has to be the required one, in any letter case. -/
def named (name description : String) : Except UploadFault Catalogue :=
  if Text.sameLetters name requiredName then
    .ok { name := name, description := description }
  else
    .error (.badSchema name)

def table? (catalogue : Catalogue) (label : String) : Option UploadedTable :=
  catalogue.tables.find? (·.label == label)

def register (table : UploadedTable) (catalogue : Catalogue) : Catalogue :=
  { catalogue with tables := catalogue.tables ++ [table] }

end Catalogue

/-- The database name of a table that is uploaded at a moment, in milliseconds. -/
def databaseName (label : String) (moment : Int) : String :=
  label ++ "_" ++ toString moment

end TableIntake

import TableIntake.Column.Declared

/-! # Schemas

What a document says of its columns, and the columns that this resolves to.
-/

namespace TableIntake

structure FieldDeclaration where
  name : String := ""
  datatype : Option String := none
  arraysize : Option String := none
  xtype : Option String := none
  description : Option String := none
  unit : Option String := none
  ucd : Option String := none
  utype : Option String := none
deriving DecidableEq, Repr

abbrev Header := List FieldDeclaration

structure Column where
  name : String
  type : StoredType
  description : Option String
  unit : Option String
  ucd : Option String
  utype : Option String
  principal : Bool := false
  indexed : Bool := false
  std : Bool := false
deriving DecidableEq, Repr

abbrev Metadata := List Column

def FieldDeclaration.column (field : FieldDeclaration) : Except SchemaFault Column :=
  match DeclaredType.resolve field.datatype field.arraysize field.xtype with
  | .error fault => .error (.inColumn field.name fault)
  | .ok declared =>
      .ok
        { name := field.name
          type := declared.stored
          description := field.description
          unit := field.unit
          ucd := field.ucd
          utype := field.utype }

/-- The columns of a header, in order. The leftmost fault wins. -/
def Header.metadata : Header → Except SchemaFault Metadata
  | [] => .ok []
  | field :: rest => do
      let column ← field.column
      let columns ← Header.metadata rest
      return column :: columns

def Metadata.named? (columns : Metadata) (name : String) : Option Column :=
  columns.find? (·.name == name)

end TableIntake

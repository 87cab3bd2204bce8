/-! # Faults of a declaration -/

namespace TableIntake

inductive SchemaFault where
  | unknownType (datatype : String)
  | multiDimensional (arraysize : String)
  | badExtent (arraysize : String)
  | inColumn (column : String) (fault : SchemaFault)
deriving DecidableEq, Repr

namespace SchemaFault

/-- The fault under all the columns that it was met in. -/
def root : SchemaFault → SchemaFault
  | .inColumn _ fault => fault.root
  | fault => fault

def message : SchemaFault → String
  | .unknownType datatype => "unknown field datatype: \"" ++ datatype ++ "\""
  | .multiDimensional arraysize =>
      "multi-dimensional arrays are not supported (arraysize=\"" ++ arraysize ++ "\")"
  | .badExtent arraysize => "incorrect arraysize: \"" ++ arraysize ++ "\""
  | .inColumn column fault => "column \"" ++ column ++ "\": " ++ fault.message

def messages : SchemaFault → List String
  | .inColumn column fault => (SchemaFault.inColumn column fault).message :: fault.messages
  | fault => [fault.message]

@[simp] theorem root_inColumn (column : String) (fault : SchemaFault) :
    (inColumn column fault).root = fault.root := rfl

end SchemaFault

end TableIntake

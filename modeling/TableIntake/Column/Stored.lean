/-! # Stored types

The types of database columns, and the kind of storage that holds their values.
-/

namespace TableIntake

inductive Kind where
  | smallint
  | integer
  | bigint
  | real
  | double
  | binary
  | varbinary
  | char
  | varchar
  | blob
  | clob
  | timestamp
  | point
  | region
  | unknown
deriving DecidableEq, Repr

namespace Kind

def all : List Kind :=
  [.smallint, .integer, .bigint, .real, .double, .binary, .varbinary, .char, .varchar, .blob,
    .clob, .timestamp, .point, .region, .unknown]

def name : Kind → String
  | .smallint => "SMALLINT"
  | .integer => "INTEGER"
  | .bigint => "BIGINT"
  | .real => "REAL"
  | .double => "DOUBLE"
  | .binary => "BINARY"
  | .varbinary => "VARBINARY"
  | .char => "CHAR"
  | .varchar => "VARCHAR"
  | .blob => "BLOB"
  | .clob => "CLOB"
  | .timestamp => "TIMESTAMP"
  | .point => "POINT"
  | .region => "REGION"
  | .unknown => "UNKNOWN"

def ofName? (name : String) : Option Kind :=
  all.find? (·.name == name)

def hasLength : Kind → Bool
  | .binary | .varbinary | .char | .varchar => true
  | _ => false

@[simp] theorem ofName?_name (kind : Kind) : ofName? kind.name = some kind := by
  cases kind <;> rfl

end Kind

inductive Storage where
  | int16
  | int32
  | int64
  | float32
  | float64
  | binary
  | utf8
deriving DecidableEq, Repr

def Storage.name : Storage → String
  | .int16 => "Int16"
  | .int32 => "Int32"
  | .int64 => "Int64"
  | .float32 => "Float32"
  | .float64 => "Float64"
  | .binary => "Binary"
  | .utf8 => "Utf8"

/-- The type of a database column. A document may state a length for any kind. -/
structure StoredType where
  kind : Kind
  length : Option UInt32
deriving DecidableEq, Repr

namespace StoredType

def plain (kind : Kind) : StoredType :=
  ⟨kind, none⟩

/-- A kind without lengths drops the one given. -/
def sized (kind : Kind) (length : UInt32) : StoredType :=
  if kind.hasLength then ⟨kind, some length⟩ else plain kind

def unboundedText : StoredType :=
  plain .varchar

def storage (stored : StoredType) : Storage :=
  match stored.kind with
  | .smallint => .int16
  | .integer => .int32
  | .bigint => .int64
  | .real => .float32
  | .double => .float64
  | .binary | .varbinary | .blob => .binary
  | .char | .varchar | .clob | .point | .region | .timestamp | .unknown => .utf8

def text (stored : StoredType) : String :=
  match stored.length with
  | some length => stored.kind.name ++ "(" ++ toString length ++ ")"
  | none => stored.kind.name

example : (sized .varchar 16).text = "VARCHAR(16)" := by decide +kernel

example : (sized .blob 16).text = "BLOB" := by decide +kernel

end StoredType

end TableIntake

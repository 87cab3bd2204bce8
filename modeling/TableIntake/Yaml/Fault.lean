import TableIntake.Numeral.Layout
import TableIntake.Text.Quoted
import TableIntake.Yaml.SyntaxFault

/-! # Faults of documents

Why a text states no settings. A text that is a document can still hold what is not
expected at some place of it.
-/

namespace TableIntake.Yaml

inductive Found where
  | boolean (value : Bool)
  | integer (value : Int)
  | real (bits : UInt64)
  | text (value : String)
  | nothing
  | sequence
  | mapping
deriving DecidableEq, Repr

namespace Found

/-- Numbers that are not whole, and large ones, are written with all their places. -/
def layout : Numeral.Layout :=
  ⟨none, ".0", .away⟩

/-- An integer that does not fit into 64 bits is told with the width that it takes. -/
def integerMessage (value : Int) : String :=
  let width :=
    if (UInt64.size : Int) ≤ value then " as u128"
    else if value < Int64.minValue.toInt then " as i128"
    else ""
  "integer \x60" ++ toString value ++ "\x60" ++ width

def message : Found → String
  | .boolean value => "boolean \x60" ++ toString value ++ "\x60"
  | .integer value => integerMessage value
  | .real bits => "floating point \x60" ++ layout.double bits ++ "\x60"
  | .text value => "string " ++ Text.quoted value
  | .nothing => "unit value"
  | .sequence => "sequence"
  | .mapping => "map"

end Found

inductive Misfit where
  | type (found : Found) (expected : String)
  | value (found : Found) (expected : String)
  | unknownField (name : String) (known : List String)
  | repeatedField (name : String)
  | unknownVariant (name : String) (known : List String)
deriving DecidableEq, Repr

namespace Misfit

def name (text : String) : String :=
  "\x60" ++ text ++ "\x60"

def oneOf : (names : List String) → String
  | [] => ""
  | [only] => name only
  | [first, second] => name first ++ " or " ++ name second
  | names => "one of " ++ ", ".intercalate (names.map name)

def message : Misfit → String
  | .type found expected => "invalid type: " ++ found.message ++ ", expected " ++ expected
  | .value found expected => "invalid value: " ++ found.message ++ ", expected " ++ expected
  | .unknownField field known => "unknown field " ++ name field ++ ", expected " ++ oneOf known
  | .repeatedField field => "duplicate field " ++ name field
  | .unknownVariant variant known =>
      "unknown variant " ++ name variant ++ ", expected " ++ oneOf known

end Misfit

structure Spot where
  path : List String
  mark : Mark
deriving DecidableEq, Repr

inductive Fault where
  | malformed (fault : SyntaxFault)
  | unknownAnchor (mark : Mark)
  | severalDocuments
  | unexpected (misfit : Misfit) (spot : Option Spot)
deriving DecidableEq, Repr

namespace Fault

def located (spot : Spot) : Fault → Fault
  | .unexpected misfit none => .unexpected misfit (some spot)
  | fault => fault

def message : Fault → String
  | .malformed fault => fault.message
  | .unknownAnchor mark => "unknown anchor" ++ mark.told
  | .severalDocuments =>
      "deserializing from YAML containing more than one document is not supported"
  | .unexpected misfit none => misfit.message
  | .unexpected misfit (some spot) =>
      let path := if spot.path.isEmpty then "" else ".".intercalate spot.path ++ ": "
      path ++ misfit.message ++ spot.mark.told

end Fault

end TableIntake.Yaml

import TableIntake.Numeral.Nearest
import TableIntake.Yaml.Node

/-! # The forms of scalars

What a scalar is taken for by the form of its text, or by a tag.
-/

namespace TableIntake.Yaml

def commonTag (type : String) : Tag :=
  tagOfText ("tag:yaml.org,2002:" ++ type)

def isLocal (tag : Tag) : Bool :=
  tag.head? = some 0x21

def isNullText (text : String) : Bool :=
  ["null", "Null", "NULL", "~"].contains text

def booleanOfText? (text : String) : Option Bool :=
  if ["true", "True", "TRUE"].contains text then some true
  else if ["false", "False", "FALSE"].contains text then some false
  else none

/-! ## Numbers -/

def inBase? (base : Nat) (digits : List Char) : Option Nat :=
  if digits.isEmpty then none
  else
    digits.foldlM
      (fun value c => do
        let digit ← Text.hexValue? c
        if digit < base then some (base * value + digit) else none)
      0

/-- A number without a sign. A base can be stated in front of it. Without one, no zeros stand
in front of other digits. -/
def magnitude? : (text : List Char) → Option Nat
  | '0' :: 'x' :: digits => inBase? 16 digits
  | '0' :: 'o' :: digits => inBase? 8 digits
  | '0' :: 'b' :: digits => inBase? 2 digits
  | ['0'] => some 0
  | '0' :: _ => none
  | digits => inBase? 10 digits

def natural? (text : String) : Option UInt64 :=
  let value := match text.toList with
    | '+' :: rest => magnitude? rest
    | text => magnitude? text
  (value.filter (· < UInt64.size)).map UInt64.ofNat

def integer? (text : String) : Option Int :=
  match text.toList with
  | '-' :: rest =>
      ((magnitude? rest).filter (· ≤ Nat.pow 2 127)).map fun magnitude => -(magnitude : Int)
  | '+' :: rest => ((magnitude? rest).filter (· < Nat.pow 2 128)).map Int.ofNat
  | rest => ((magnitude? rest).filter (· < Nat.pow 2 128)).map Int.ofNat

def real? (text : String) : Option UInt64 :=
  let unsigned := match text.toList with
    | '+' :: '-' :: _ => none
    | '+' :: rest => some (String.ofList rest)
    | _ => some text
  match unsigned with
  | none => none
  | some unsigned =>
      let format := Numeral.BinaryFormat.double
      if [".inf", ".Inf", ".INF"].contains unsigned then
        some (UInt64.ofNat (format.encode (.infinite false)))
      else if ["-.inf", "-.Inf", "-.INF"].contains text then
        some (UInt64.ofNat (format.encode (.infinite true)))
      else if [".nan", ".NaN", ".NAN"].contains text then
        some (UInt64.ofNat format.nanBits)
      else Numeral.finiteDouble? unsigned.toList

/-- Whether a text consists of digits with zeros in front of others. It is no number then. -/
def hasIdleZeros (text : String) : Bool :=
  let digits := match text.toList with
    | '+' :: rest | '-' :: rest => rest
    | text => text
  1 < digits.length && digits.head? = some '0' && digits.all Char.isDigit

/-! ## Scalars -/

def Found.ofText (text : String) : Found :=
  if text = "" || isNullText text then .nothing
  else
    match booleanOfText? text, integer? text, real? text with
    | some value, _, _ => .boolean value
    | none, some value, _ => .integer value
    | none, none, some bits => if hasIdleZeros text then .text text else .real bits
    | none, none, none => .text text

/-- How a scalar does not fit where something else is expected. A tag of a common type asks for
that type. -/
def scalarMisfit (expected : String) (tag : Option Tag) (style : Style) (text : String) : Misfit :=
  let typed (found : Option Found) (type : String) : Misfit :=
    match found with
    | some found => .type found expected
    | none => .value (.text text) type
  match tag with
  | none => .type (if style = .plain then .ofText text else .text text) expected
  | some tag =>
      if tag = commonTag "bool" then typed ((booleanOfText? text).map .boolean) "a boolean"
      else if tag = commonTag "int" then typed ((integer? text).map .integer) "an integer"
      else if tag = commonTag "float" then typed ((real? text).map .real) "a float"
      else if tag = commonTag "null" then
        typed (if isNullText text then some .nothing else none) "null"
      else .type (if isLocal tag && style = .plain then .ofText text else .text text) expected

namespace Node

def mark : Node → Mark
  | .scalar label _ _ | .sequence label _ | .mapping label _ => label.mark
  | .alias mark _ => mark
  | .missing => {}

def misfit (expected : String) : Node → Misfit
  | .scalar label style text => scalarMisfit expected label.tag style text
  | .sequence _ _ => .type .sequence expected
  | .mapping _ _ => .type .mapping expected
  | .alias _ _ | .missing => .type .nothing expected

def formText? (type : String) : Node → Option String
  | .scalar _ .plain text => some text
  | .scalar label .literal text => if label.tag = some (commonTag type) then some text else none
  | _ => none

def boolean? (node : Node) : Option Bool := do
  booleanOfText? (← node.formText? "bool")

def word? (node : Node) : Option UInt64 := do
  natural? (← node.formText? "int")

def text? : Node → Option String
  | .scalar _ _ text => some text
  | _ => none

end Node

end TableIntake.Yaml

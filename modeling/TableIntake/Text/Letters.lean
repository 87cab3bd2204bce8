/-! # Letter case

Names of types, units and formats are compared without regard to the case of the
letters A to Z. Other letters keep their case.
-/

namespace TableIntake.Text

/-- `text` with A to Z in lower case. -/
def fold (text : String) : String :=
  String.ofList (text.toList.map Char.toLower)

def sameLetters (left right : String) : Bool :=
  fold left == fold right

example : sameLetters "TAP_Upload" "tap_uPLOAD" = true := by decide +kernel

example : fold "ÉA" = "Éa" := by decide +kernel

end TableIntake.Text

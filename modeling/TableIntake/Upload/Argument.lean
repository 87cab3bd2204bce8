import TableIntake.Text.Blank

/-! # Upload arguments

An upload on the command line is a label and a path with an equals sign between them.
-/

namespace TableIntake

structure UploadArgument where
  label : String
  path : String
deriving DecidableEq, Repr

namespace UploadArgument

/-- Splits at the first equals sign. The label loses the white space around it, and is not
blank. The path is not empty. -/
def ofText (text : String) : Except String UploadArgument :=
  let refusal := Except.error ("expected LABEL=PATH, got \"" ++ text ++ "\"")
  match text.toList.span (· ≠ '=') with
  | (label, _ :: path) =>
      let label := Text.trim (String.ofList label)
      if label = "" ∨ path = [] then refusal else .ok ⟨label, String.ofList path⟩
  | (_, []) => refusal

end UploadArgument

end TableIntake

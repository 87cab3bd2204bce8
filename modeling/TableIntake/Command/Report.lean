import TableIntake.Text.Lines

/-! # Error reports

A message with the messages of its causes below it. Several causes are numbered.
-/

namespace TableIntake.Report

def spaces (count : Nat) : List Char :=
  List.replicate count ' '

def indented (indent : Nat) (text : String) : List Char :=
  match Text.lines text.toList with
  | [] => []
  | first :: rest =>
      first ++ rest.flatMap fun line => '\n' :: spaces indent ++ line

def numbered (index : Nat) (cause : String) : List Char :=
  let number := (toString index).toList
  '\n' :: spaces (5 - number.length) ++ number ++ [':', ' '] ++ indented 7 cause

def causes : List String → List Char
  | [] => []
  | [cause] => "\n\nCaused by:\n    ".toList ++ indented 4 cause
  | several =>
      "\n\nCaused by:".toList ++ (several.zipIdx.flatMap fun (cause, index) => numbered index cause)

def text : List String → String
  | [] => ""
  | message :: others => "Error: " ++ message ++ String.ofList (causes others) ++ "\n"

example : text ["a", "b"] = "Error: a\n\nCaused by:\n    b\n" := by decide +kernel

example : text ["a", "b", "c"] = "Error: a\n\nCaused by:\n    0: b\n    1: c\n" := by
  decide +kernel

end TableIntake.Report

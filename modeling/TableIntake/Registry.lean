import TableIntake.Document.Parsing
import TableIntake.Text.Letters
import TableIntake.Text.Quoted

/-! # Parsers by format

What an upload is read from, and the parsers that can read it.
-/

namespace TableIntake

/-- `script` lists the steps of a parser outright. -/
inductive Source where
  | document (document : Document)
  | bytes (bytes : List UInt8)
  | script (steps : List ParserStep)
  | unreadable (message : String)

structure TableParser where
  name : String
  steps : Source → List ParserStep

namespace TableParser

def documentFormat : String :=
  "arrow-ipc"

def documents : TableParser where
  name := documentFormat
  steps
    | .document document => document.steps
    | .bytes bytes => stepsOfBytes bytes
    | .script _ => stepsOfBytes []
    | .unreadable message => [.fail (.arrow (.io message))]

def scripts (name : String) : TableParser where
  name := name
  steps
    | .script steps => steps
    | _ => []

end TableParser

/-- Parsers by the name of their format in lower case, in increasing order. -/
structure Registry where
  parsers : List (String × TableParser) := []

namespace Registry

def insert (format : String) (parser : TableParser) :
    List (String × TableParser) → List (String × TableParser)
  | [] => [(format, parser)]
  | (other, known) :: rest =>
      if format < other then (format, parser) :: (other, known) :: rest
      else if format = other then (format, parser) :: rest
      else (other, known) :: insert format parser rest

/-- The latest parser of a format takes the place of the one before. -/
def register (parser : TableParser) (registry : Registry) : Registry :=
  ⟨insert (Text.fold parser.name) parser registry.parsers⟩

def standard : Registry :=
  ({} : Registry).register .documents

def get (registry : Registry) (format : String) : Except ReadFault TableParser :=
  match registry.parsers.lookup (Text.fold format) with
  | some parser => .ok parser
  | none => .error (.setup ("no table builder for format \"" ++ format ++ "\""))

def formats (registry : Registry) : List String :=
  registry.parsers.map Prod.fst

def text (registry : Registry) : String :=
  "BuilderRegistry \x7b formats: [" ++
    String.intercalate ", " (registry.formats.map Text.quoted) ++ "] \x7d"

end Registry

end TableIntake

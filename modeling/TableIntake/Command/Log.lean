import TableIntake.Command.Outcome

/-! # Log lines

How much is told while a command runs, and where each line comes from.
-/

namespace TableIntake

inductive Severity where
  | debug
  | info
  | warn
  | error
deriving DecidableEq, Repr

namespace Severity

def rank : Severity → Nat
  | .debug => 0
  | .info => 1
  | .warn => 2
  | .error => 3

def name : Severity → String
  | .debug => "debug"
  | .info => "info"
  | .warn => "warn"
  | .error => "error"

def ofName? (name : String) : Option Severity :=
  [debug, info, warn, error].find? (·.name == name)

end Severity

structure LogLine where
  severity : Severity
  part : String
  message : String
deriving DecidableEq, Repr

def LogLine.text (line : LogLine) : String :=
  line.severity.name ++ " " ++ line.part ++ " " ++ line.message

def Notice.line : Notice → LogLine
  | .uploading label dbName columns =>
      ⟨.info, "upload uploader", "uploading " ++ label ++ " into " ++ dbName ++ " with " ++
        toString columns ++ " columns"⟩
  | .uploaded label rows =>
      ⟨.info, "upload uploader", "uploaded " ++ toString rows ++ " rows for " ++ label⟩
  | .interrupted label rows =>
      ⟨.warn, "upload uploader", "upload of " ++ label ++ " interrupted after " ++ toString rows ++
        " rows"⟩
  | .exceeded quota =>
      ⟨.warn, "votstream limited", "data read limit of " ++ toString quota.limit ++ " " ++
        quota.unit.name ++ " exceeded"⟩
  | .parserFailed fault =>
      ⟨.error, "votstream sink", "table parser failed: " ++ fault.message⟩

/-- The least severity that is told, and what is told first. Nothing is told at all if there
is no least severity. -/
structure LogLevel where
  least : Option Severity
  opening : List LogLine := []

namespace LogLevel

def choose (variableName : String) (value : Option String) (verbose : Bool) : LogLevel :=
  match value with
  | none => ⟨if verbose then some .info else none, []⟩
  | some "off" => ⟨none, []⟩
  | some text =>
      match Severity.ofName? text with
      | some severity => ⟨some severity, []⟩
      | none =>
          ⟨some .info,
            [⟨.warn, "diagnostics", "unknown " ++ variableName ++ " value " ++ text ++
              ", using info"⟩]⟩

def lines (level : LogLevel) (notices : List Notice) : List LogLine :=
  match level.least with
  | none => []
  | some least =>
      level.opening ++
        (notices.map Notice.line).filter fun line => decide (least.rank ≤ line.severity.rank)

end LogLevel

end TableIntake

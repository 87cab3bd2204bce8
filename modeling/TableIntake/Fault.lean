import TableIntake.Column.Fault
import TableIntake.Quota

/-! # Faults

What can go wrong while a table is parsed, read and uploaded. Each fault has a message,
and a chain of messages that goes on with the fault it came from.
-/

namespace TableIntake

inductive ArrowFault where
  | parser (message : String)
  | io (message : String)
  | schema (message : String)
  | argument (message : String)
deriving DecidableEq, Repr

namespace ArrowFault

def message : ArrowFault → String
  | .parser message => "Parser error: " ++ message
  | .io message => "Io error: " ++ message
  | .schema message => "Schema error: " ++ message
  | .argument message => "Invalid argument error: " ++ message

def messages : ArrowFault → List String
  | .io message => [(ArrowFault.io message).message, message]
  | fault => [fault.message]

end ArrowFault

inductive ParseFault where
  | io (message : String)
  | arrow (fault : ArrowFault)
  | format (message : String)
  | aborted
deriving DecidableEq, Repr

namespace ParseFault

def isAborted : ParseFault → Bool
  | .aborted => true
  | _ => false

def abortedMessage : String :=
  "streaming aborted"

def message : ParseFault → String
  | .io message => "IO error: " ++ message
  | .arrow fault => "Arrow error: " ++ fault.message
  | .format message => "malformed document: " ++ message
  | .aborted => abortedMessage

def messages : ParseFault → List String
  | .io message => [(ParseFault.io message).message, message]
  | .arrow fault => (ParseFault.arrow fault).message :: fault.messages
  | fault => [fault.message]

end ParseFault

inductive ReadFault where
  | setup (message : String)
  | schema (fault : SchemaFault)
  | state (message : String)
  | noSuchElement (message : String)
  | quotaExceeded (quota : Quota)
  | parse (fault : ParseFault)
deriving DecidableEq, Repr

namespace ReadFault

def isQuotaExceeded : ReadFault → Bool
  | .quotaExceeded _ => true
  | _ => false

def message : ReadFault → String
  | .setup message => "unable to start reading the table: " ++ message
  | .schema fault => fault.message
  | .state message => message
  | .noSuchElement message => message
  | .quotaExceeded quota =>
      "data read limit exceeded: at most " ++ toString quota.limit ++ " " ++ quota.unit.name ++
        " may be read"
  | .parse fault => "unable to parse the table: " ++ fault.message

def messages : ReadFault → List String
  | .schema fault => fault.message :: fault.messages
  | .parse fault => (ReadFault.parse fault).message :: fault.messages
  | fault => [fault.message]

end ReadFault

/-- Why an upload is refused. All but three name the label of the upload. -/
inductive UploadFault where
  | disabled
  | badSchema (name : String)
  | setup (label : String) (fault : ReadFault)
  | unopened (label : String) (message : String)
  | quotaExceeded (label : String) (quota : Quota)
  | unreadable (label : String) (fault : ReadFault)
  | interrupted (label : String) (rows : Nat)
  | unstorable (label : String) (message : String)
  | arrow (fault : ArrowFault)
deriving DecidableEq, Repr

namespace UploadFault

def reading (label : String) : ReadFault → UploadFault
  | .quotaExceeded quota => .quotaExceeded label quota
  | .setup message => .setup label (.setup message)
  | fault => .unreadable label fault

def label? : UploadFault → Option String
  | .setup label _ | .unopened label _ | .quotaExceeded label _ | .unreadable label _
  | .interrupted label _ | .unstorable label _ => some label
  | .disabled | .badSchema _ | .arrow _ => none

def message : UploadFault → String
  | .disabled => "upload aborted: this functionality is disabled"
  | .badSchema name =>
      "incorrect upload schema: its name must be \"TAP_UPLOAD\", not \"" ++ name ++ "\""
  | .setup label fault =>
      "unable to start reading the upload \"" ++ label ++ "\": " ++ fault.message
  | .unopened label message =>
      "IO error while opening the upload \"" ++ label ++ "\": " ++ message
  | .quotaExceeded label quota =>
      "upload \"" ++ label ++ "\" exceeds the data read limit of " ++ toString quota.limit ++ " " ++
        quota.unit.name
  | .unreadable label fault =>
      "error while reading the upload \"" ++ label ++ "\": " ++ fault.message
  | .interrupted label rows =>
      "upload \"" ++ label ++ "\" was interrupted after " ++ toString rows ++ " rows"
  | .unstorable label message => "unable to load the upload \"" ++ label ++ "\": " ++ message
  | .arrow fault => "Arrow error: " ++ fault.message

def messages : UploadFault → List String
  | .setup label fault => (UploadFault.setup label fault).message :: fault.messages
  | .unopened label message => [(UploadFault.unopened label message).message, message]
  | .unreadable label fault => (UploadFault.unreadable label fault).message :: fault.messages
  | .arrow fault => (UploadFault.arrow fault).message :: fault.messages
  | fault => [fault.message]

end UploadFault

end TableIntake

import TableIntake.Command.Outcome
import TableIntake.Text.Blank

/-! # Describing uploads

Shows the columns of uploads without reading their rows.
-/

namespace TableIntake

namespace Describe

def columnLine (width : Nat) (column : Column) : String :=
  let padding := String.ofList (List.replicate (width - column.name.length) ' ')
  let unit := column.unit.elim "" fun unit => "  [" ++ unit ++ "]"
  let ucd := column.ucd.elim "" fun ucd => "  " ++ ucd
  let description := column.description.elim "" fun description => "  " ++ description
  let line := "  " ++ column.name ++ padding ++ "  " ++ column.type.text ++ unit ++ ucd ++
    description
  String.ofList (Text.trimRight line.toList) ++ "\n"

/-- One line for each column. Names are filled up to as many characters as the longest of
them has bytes. -/
def text (label : String) (columns : Metadata) : String :=
  let width := (columns.map fun column => column.name.utf8ByteSize).foldr max 0
  label ++ " (" ++ toString columns.length ++ " columns)\n" ++
    String.join (columns.map (columnLine width))

/-- The columns of one upload, and what its parser was heard to fail with. -/
def readColumns (files : Files) (settings : Settings) (arrival : Arrival) :
    Except Trouble Metadata × List Notice :=
  let label := arrival.upload.label
  match arrival.upload.source files with
  | .error message => (.error (.other ("Failed to open upload " ++ label) [message]), [])
  | .ok source =>
      match Registry.standard.get settings.format with
      | .error fault =>
          (.error (.other ("Failed to start reading upload " ++ label) fault.messages), [])
      | .ok parser =>
          let stream := Stream.start (parser.steps source) settings.isImpatient
          let reader : StreamReader := { stream := { stream with schedule := arrival.schedule } }
          let (columns, reader) := reader.metadata
          let notices := reader.stream.failure?.toList.map Notice.parserFailed
          match columns with
          | .error fault =>
              (.error (.other ("Failed to read the columns of upload " ++ label) fault.messages),
                notices)
          | .ok columns => (.ok columns, notices)

/-- Shows the uploads before the first one whose columns cannot be read. -/
def run (files : Files) (settings : Settings) : List Arrival → Outcome
  | [] => ⟨[], none, []⟩
  | arrival :: rest =>
      match readColumns files settings arrival with
      | (.error trouble, notices) => ⟨[], some trouble, notices⟩
      | (.ok columns, notices) =>
          let others := run files settings rest
          ⟨text arrival.upload.label columns :: others.outputs, others.trouble,
            notices ++ others.notices⟩

end Describe

end TableIntake

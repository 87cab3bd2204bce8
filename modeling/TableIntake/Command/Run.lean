import TableIntake.Command.Arguments
import TableIntake.Command.Describe
import TableIntake.Command.Help
import TableIntake.Command.Log
import TableIntake.Command.Report
import TableIntake.Yaml.Settings

/-! # Runs of the program

What a command line gives in a directory of files.
-/

namespace TableIntake

/-- What a run leaves behind. A command line that asks for nothing that can be done gives a
code only. -/
structure Response where
  code : Nat
  stdout : String := ""
  report : String := ""
  log : List LogLine := []

namespace Program

def versionText : String :=
  "tapload 0.1.0\n"

def logVariable : String :=
  "TAPLOAD_LOG"

def misuse : Response :=
  { code := 2 }

def settings (files : Files) (config : Option String) : Except Trouble Settings :=
  match config with
  | none => .ok {}
  | some path =>
      match Yaml.settingsOfFile files path with
      | .ok settings => .ok settings
      | .error fault => .error (.other fault.message fault.cause?.toList)

def arrivals (start : Int) (uploads : List UploadArgument) : List Arrival :=
  uploads.zipIdx.map fun (argument, index) =>
    { upload := { label := argument.label, origin := .file argument.path }
      moment := start + index }

def carryOut (files : Files) (command : CommandName) (settings : Settings)
    (limits : LimitOverrides) (arrivals : List Arrival) : Outcome :=
  match command with
  | .describe => Describe.run files settings arrivals
  | .load => Load.run files settings limits arrivals

def respond (level : LogLevel) (outcome : Outcome) : Response :=
  { code := if outcome.trouble.isSome then 1 else 0
    stdout := String.join outcome.outputs
    report := outcome.trouble.elim "" fun trouble => Report.text trouble.messages
    log := level.lines outcome.notices }

def run (files : Files) (logValue : Option String) (moment : Int) (words : List String) :
    Response :=
  match Arguments.invocation? words with
  | none => misuse
  | some .version => { code := 0, stdout := versionText }
  | some (.help topic) => { code := 0, stdout := topic.page.text }
  | some (.run command config verbose limits uploads) =>
      let level := LogLevel.choose logVariable logValue verbose
      respond level <|
        match settings files config with
        | .error trouble => { trouble := some trouble }
        | .ok settings => carryOut files command settings limits (arrivals moment uploads)

end Program

end TableIntake

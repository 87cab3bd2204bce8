import Std.Time.DateTime.Timestamp
import TableIntake.Command.Run

/-! # The program

Reads the files that the command line names and shows what the run gives.
-/

namespace TableIntake.Program

def mentionedPaths (words : List String) : List String :=
  match Arguments.invocation? words with
  | some (.run _ config _ _ uploads) => config.toList ++ uploads.map UploadArgument.path
  | _ => []

def readFile? (path : String) : IO (Option (String × Source)) := do
  try
    let bytes ← IO.FS.readBinFile path
    return some (path, .bytes bytes.toList)
  catch _ =>
    return none

end TableIntake.Program

open TableIntake

def main (words : List String) : IO UInt32 := do
  let files ← (Program.mentionedPaths words).filterMapM Program.readFile?
  let logValue ← IO.getEnv Program.logVariable
  let now ← Std.Time.Timestamp.now
  let response := Program.run files logValue now.toMillisecondsSinceUnixEpoch.val words
  for line in response.log do
    IO.eprintln line.text
  IO.print response.stdout
  IO.eprint response.report
  return response.code.toUInt32

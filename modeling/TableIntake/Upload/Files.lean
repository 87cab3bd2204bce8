import TableIntake.Registry

/-! # Files

A directory of sources, and what opening a path in it gives.
-/

namespace TableIntake

/-- The files of the working directory by name. A path below it can name one too. -/
abbrev Files := List (String × Source)

namespace Files

def missing : String :=
  "No such file or directory (os error 2)"

def isDirectory : String :=
  "Is a directory (os error 21)"

def notDirectory : String :=
  "Not a directory (os error 20)"

def nulInPath : String :=
  "file name contained an unexpected NUL byte"

def nameTooLong : String :=
  "File name too long (os error 36)"

def maxPathSize : Nat :=
  4095

def maxStepSize : Nat :=
  255

def steps (path : String) : List String :=
  (path.splitOn "/").filter fun step => step ≠ "" && step ≠ "."

def endsInDirectory (path : String) : Bool :=
  path.endsWith "/" || path.endsWith "/."

/-- Follows steps from the working directory, or from one around it, which holds nothing
that is known. -/
def follow (files : Files) (mustBeDirectory : Bool) : (steps : List String) → Except String Source
  | [] => .ok (.unreadable isDirectory)
  | step :: rest =>
      if step = ".." then follow [] mustBeDirectory rest
      else if maxStepSize < step.utf8ByteSize then .error nameTooLong
      else
        match files.lookup step with
        | some source =>
            if rest.isEmpty && !mustBeDirectory then .ok source else .error notDirectory
        | none => .error missing

/-- Opens a path in the working directory. A directory opens, but cannot be read. Of the
files elsewhere only the empty device is known. -/
def openPath (files : Files) (path : String) : Except String Source :=
  if path.toList.contains '\x00' then .error nulInPath
  else if path = "" then .error missing
  else if maxPathSize < path.utf8ByteSize then .error nameTooLong
  else if let some source := files.lookup path then .ok source
  else if !path.startsWith "/" then follow files (endsInDirectory path) (steps path)
  else if steps path = ["dev", "null"] && !endsInDirectory path then .ok (.bytes [])
  else follow [] (endsInDirectory path) (steps path)

end Files

inductive Origin where
  | given (source : Source)
  | file (path : String)

structure Upload where
  label : String
  origin : Origin

namespace Upload

def source (files : Files) (upload : Upload) : Except String Source :=
  match upload.origin with
  | .given source => .ok source
  | .file path => files.openPath path

end Upload

end TableIntake

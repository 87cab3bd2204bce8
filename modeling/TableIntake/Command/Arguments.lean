import TableIntake.Command.Load
import TableIntake.Numeral.Unsigned
import TableIntake.Upload.Argument

/-! # Command lines

The words of a command line: a command, its uploads, and options in front of the command
or behind it.
-/

namespace TableIntake

inductive CommandName where
  | describe
  | load
deriving DecidableEq, Repr

inductive HelpTopic where
  | program
  | command (name : CommandName)
  | help
deriving DecidableEq, Repr

/-- The options given on one side of the command. None may be given twice. -/
structure Options where
  config : Option String := none
  verbose : Bool := false
  limits : LimitOverrides := {}
deriving DecidableEq, Repr

inductive Invocation where
  | version
  | help (topic : HelpTopic)
  | run (command : CommandName) (config : Option String) (verbose : Bool) (limits : LimitOverrides)
      (uploads : List UploadArgument)
deriving DecidableEq, Repr

namespace Arguments

/-- What has been understood behind a command, or in front of any. -/
structure Reading where
  command : Option CommandName := none
  options : Options := {}
  uploads : List UploadArgument := []

def Reading.withOptions (options : Options) (reading : Reading) : Reading :=
  { reading with options := options }

def setVerbose? (reading : Reading) : Option Reading :=
  if reading.options.verbose then none
  else some (reading.withOptions { reading.options with verbose := true })

def setConfig? (value : String) (reading : Reading) : Option Reading :=
  if reading.options.config.isSome || value = "" then none
  else some (reading.withOptions { reading.options with config := some value })

def setUnit? (value : String) (reading : Reading) : Option Reading :=
  match reading.options.limits.unit, LimitUnit.ofText value with
  | none, .ok unit =>
      let limits := { reading.options.limits with unit := some unit }
      some (reading.withOptions { reading.options with limits := limits })
  | _, _ => none

def setLimit? (value : String) (reading : Reading) : Option Reading :=
  match reading.options.limits.limit, Numeral.unsigned64? value.toList with
  | none, some limit =>
      let limits := { reading.options.limits with limit := some limit }
      some (reading.withOptions { reading.options with limits := limits })
  | _, _ => none

def addUpload? (text : String) (reading : Reading) : Option Reading :=
  match UploadArgument.ofText text with
  | .ok upload => some { reading with uploads := reading.uploads ++ [upload] }
  | .error _ => none

def valued? (name : String) (command : Option CommandName) :
    Option (String → Reading → Option Reading) :=
  if name = "config" then some setConfig?
  else if command ≠ some .load then none
  else if name = "limit-unit" then some setUnit?
  else if name = "limit" then some setLimit?
  else none

/-- What a word of options comes to. `awaits` is how the word after it is taken. -/
inductive Effect where
  | done (reading : Reading)
  | awaits (reading : Reading) (take : String → Reading → Option Reading)
  | asks (invocation : Invocation)

def askVersion? (reading : Reading) : Option Effect :=
  if reading.command = none then some (.asks .version) else none

def askHelp (reading : Reading) : Effect :=
  .asks (.help (reading.command.elim .program .command))

def long? (text : List Char) (reading : Reading) : Option Effect :=
  let name := String.ofList (text.takeWhile (· ≠ '='))
  let value := text.dropWhile (· ≠ '=')
  match valued? name reading.command, value with
  | some take, [] => some (.awaits reading take)
  | some take, _ :: value => (take (String.ofList value) reading).map .done
  | none, [] =>
      if name = "verbose" then (setVerbose? reading).map .done
      else if name = "version" then askVersion? reading
      else if name = "help" then some (askHelp reading)
      else none
  | none, _ :: _ => none

/-- A word of one dash and letters. The rest of the word behind a letter that takes a value is
that value, with or without an equals sign. -/
def short? : (text : List Char) → Reading → Option Effect
  | [], reading => some (.done reading)
  | 'v' :: rest, reading => (setVerbose? reading).bind (short? rest)
  | ['c'], reading => some (.awaits reading setConfig?)
  | 'c' :: '=' :: value, reading => (setConfig? (String.ofList value) reading).map .done
  | 'c' :: value, reading => (setConfig? (String.ofList value) reading).map .done
  | 'V' :: _, reading => askVersion? reading
  | 'h' :: _, reading => some (askHelp reading)
  | _, _ => none

def isValue (word : String) : Bool :=
  match word.toList with
  | '-' :: _ :: _ => false
  | _ => true

def commandName? (word : String) : Option CommandName :=
  if word = "describe" then some .describe
  else if word = "load" then some .load
  else none

def helpTopic? : (words : List String) → Option HelpTopic
  | [] => some .program
  | [word] => if word = "help" then some .help else (commandName? word).map .command
  | _ => none

/-- The options in front of the command and those behind it. The latter win. -/
def finish? (outer inner : Reading) : Option Invocation :=
  match inner.command, inner.uploads with
  | none, _ | _, [] => none
  | some command, uploads =>
      some (.run command (inner.options.config.or outer.options.config)
        (inner.options.verbose || outer.options.verbose) inner.options.limits uploads)

def uploadsOnly? (words : List String) (reading : Reading) : Option Reading :=
  words.foldlM (fun reading word => addUpload? word reading) reading

def read? (outer : Reading) : (reading : Reading) → (words : List String) → Option Invocation
  | reading, [] => finish? outer reading
  | reading, word :: rest =>
      match word.toList with
      | ['-', '-'] =>
          if reading.command = none then none
          else (uploadsOnly? rest reading).bind (finish? outer)
      | '-' :: second :: letters =>
          let effect :=
            if second = '-' then long? letters reading else short? (second :: letters) reading
          match effect with
          | none => none
          | some (.asks invocation) => some invocation
          | some (.done reading) => read? outer reading rest
          | some (.awaits reading take) =>
              match rest with
              | [] => none
              | value :: rest =>
                  if isValue value then
                    match take value reading with
                    | none => none
                    | some reading => read? outer reading rest
                  else none
      | _ =>
          match reading.command with
          | some _ =>
              match addUpload? word reading with
              | none => none
              | some reading => read? outer reading rest
          | none =>
              if word = "help" then (helpTopic? rest).map .help
              else
                match commandName? word with
                | none => none
                | some command => read? reading { command := some command } rest

def invocation? (words : List String) : Option Invocation :=
  read? {} {} words

end Arguments

end TableIntake

import TableIntake.Command.Arguments

/-! # Help

What the program tells about its commands: a purpose, a form of use, and lists of the words
that it takes.
-/

namespace TableIntake

structure Explained where
  word : String
  meaning : String

structure Listing where
  title : String
  words : List Explained

structure HelpPage where
  purpose : String
  use : String
  listings : List Listing

namespace Explained

def line (width : Nat) (explained : Explained) : String :=
  let filling := String.ofList (List.replicate (width - explained.word.length) ' ')
  "  " ++ explained.word ++ filling ++ "  " ++ explained.meaning ++ "\n"

def config : Explained :=
  ⟨"-c, --config <CONFIG>", "Upload configuration (YAML)"⟩

def verbose : Explained :=
  ⟨"-v, --verbose", "Enable verbose output (info level unless TAPLOAD_LOG is set)"⟩

def limitUnit : Explained :=
  ⟨"    --limit-unit <LIMIT_UNIT>", "Count the quota in rows or bytes"⟩

def limit : Explained :=
  ⟨"    --limit <LIMIT>", "Largest number of rows or bytes per table"⟩

def help : Explained :=
  ⟨"-h, --help", "Print help"⟩

def version : Explained :=
  ⟨"-V, --version", "Print version"⟩

end Explained

namespace Listing

def width (listing : Listing) : Nat :=
  listing.words.foldr (fun explained width => max explained.word.length width) 0

def text (listing : Listing) : String :=
  "\n" ++ listing.title ++ ":\n" ++ String.join (listing.words.map (Explained.line listing.width))

end Listing

namespace HelpPage

def text (page : HelpPage) : String :=
  page.purpose ++ "\n\nUsage: " ++ page.use ++ "\n" ++ String.join (page.listings.map Listing.text)

end HelpPage

def CommandName.word : CommandName → String
  | .describe => "describe"
  | .load => "load"

def CommandName.purpose : CommandName → String
  | .describe => "Show the columns of each document"
  | .load => "Upload documents and print the stored tables"

def CommandName.uploads : CommandName → Explained
  | .describe => ⟨"<UPLOADS>...", "Documents to read, as LABEL=PATH"⟩
  | .load => ⟨"<UPLOADS>...", "Documents to upload, as LABEL=PATH"⟩

def CommandName.options : CommandName → List Explained
  | .describe => [.config, .verbose, .help]
  | .load => [.config, .limitUnit, .limit, .verbose, .help]

namespace HelpTopic

def helpPurpose : String :=
  "Print this message or the help of the given subcommand(s)"

def commands : List Explained :=
  [CommandName.describe, .load].map (fun command => ⟨command.word, command.purpose⟩)
    ++ [⟨"help", helpPurpose⟩]

def page : HelpTopic → HelpPage
  | .program =>
      { purpose := "Command-line loader for streamed tables"
        use := "tapload [OPTIONS] <COMMAND>"
        listings := [⟨"Commands", commands⟩, ⟨"Options", [.config, .verbose, .help, .version]⟩] }
  | .command name =>
      { purpose := name.purpose
        use := "tapload " ++ name.word ++ " [OPTIONS] <UPLOADS>..."
        listings := [⟨"Arguments", [name.uploads]⟩, ⟨"Options", name.options⟩] }
  | .help =>
      { purpose := helpPurpose
        use := "tapload help [COMMAND]..."
        listings := [⟨"Arguments", [⟨"[COMMAND]...", "Print help for the subcommand(s)"⟩]⟩] }

example : HelpTopic.help.page.text =
    "Print this message or the help of the given subcommand(s)\n\n" ++
    "Usage: tapload help [COMMAND]...\n\n" ++
    "Arguments:\n  [COMMAND]...  Print help for the subcommand(s)\n" := by
  decide +kernel

end HelpTopic

end TableIntake

import BenchCheckout.CommandLine.Basic

/-!
# Help and usage texts

`Topic.helpText` is the help on the program or a subcommand, with or without colours, and
`Refusal.text` what is told about words that make no invocation, without hints at names that are
similar. Each text ends with one line feed.
-/

namespace BenchCheckout.CommandLine

def Verb.about : Verb → String
  | checkout => "Download, extract and build a project into <path>/<project>"
  | fetch => "Download and extract a project into <path>/<project> without building"
  | instrument => "Instrument the compiled classes of <path>/<project>"
  | doctor => "Check that external tools and instrumenter files are available"
  | init => "Write a .d4jrc.json with the default configuration"
  | completions => "Generate shell completions"

def Topic.about : Topic → String
  | program => "Fetch, build and instrument Defects4J-style benchmark checkouts"
  | verb v => v.about
  | help => "Print this message or the help of the given subcommand(s)"

/-- The shells' names, in brackets. -/
def possibleShells : String :=
  "[possible values: " ++ String.intercalate ", " (Shell.all.map (·.name)) ++ "]"

def Positional.about (verb : Verb) : Positional → String
  | project => "Project identifier, e.g. Lang_10"
  | path =>
    if verb = .instrument then "Workspace directory holding the built checkout"
    else "Workspace directory that receives the checkout"
  | shell => "Shell to generate completions for " ++ possibleShells

/-! ## Lettering -/

inductive Tone where
  | plain
  | strong
  | heading
deriving DecidableEq, Repr

/-- Stretches of a line, each in its tone. -/
abbrev Lettering := List (Tone × String)

/-- A stretch on a console, with or without colours. -/
def Tone.paint (colours : Bool) (text : String) : Tone → String
  | plain => text
  | strong => if colours then "\x1b[1m" ++ text ++ "\x1b[0m" else text
  | heading => if colours then "\x1b[1m\x1b[4m" ++ text ++ "\x1b[0m" else text

namespace Lettering

def text (l : Lettering) (colours : Bool) : String :=
  String.join (l.map fun (tone, s) => tone.paint colours s)

/-- The number of visible characters. -/
def width (l : Lettering) : Nat := (l.text false).length

end Lettering

/-! ## Tables -/

/-- Rows of a term and what it means, the meanings below each other. -/
def table (colours : Bool) (rows : List (Lettering × String)) : String :=
  let width := (rows.map (·.1.width)).foldl max 0
  String.join <| rows.map fun (term, meaning) =>
    "  " ++ term.text colours ++ String.ofList (List.replicate (width - term.width) ' ') ++ "  " ++
      meaning ++ "\n"

/-- A table under its heading, behind an empty line. -/
def block (colours : Bool) (title : String) (rows : List (Lettering × String)) : String :=
  if rows.isEmpty then ""
  else "\n" ++ Tone.heading.paint colours (title ++ ":") ++ "\n" ++ table colours rows

/-- The term of an option with a letter and a name. -/
def optionTerm (letter name : String) : Lettering :=
  [(.strong, letter), (.plain, ", "), (.strong, name)]

def configRow : Lettering × String :=
  (optionTerm "-c" "--config" ++ [(.plain, " <CONFIG>")], "Config file (default: ./.d4jrc.json)")

def noCacheRow : Lettering × String :=
  ([(.plain, "    "), (.strong, "--no-cache")],
    "Download the archive even if a cached copy exists, and delete it afterwards")

def helpRow : Lettering × String := (optionTerm "-h" "--help", "Print help")

def versionRow : Lettering × String := (optionTerm "-V" "--version", "Print version")

def Topic.optionRows : Topic → List (Lettering × String)
  | program => [configRow, helpRow, versionRow]
  | verb v => configRow :: (if v.hasNoCache then [noCacheRow] else []) ++ [helpRow]
  | help => []

def Topic.argumentRows : Topic → List (Lettering × String)
  | program => []
  | verb v => v.positionals.map fun p => ([(.plain, p.label)], p.about v)
  | help => [([(.plain, "[COMMAND]...")], "Print help for the subcommand(s)")]

def Topic.commandRows : Topic → List (Lettering × String)
  | program =>
    Verb.all.map (fun v => ([(.strong, v.name)], v.about)) ++
      [([(.strong, helpWord)], Topic.help.about)]
  | _ => []

/-! ## Usage lines -/

def Topic.path : Topic → String
  | program => programName
  | verb v => programName ++ " " ++ v.name
  | help => programName ++ " " ++ helpWord

/-- How the topic's words go on, in general. -/
def Topic.pattern : Topic → List String
  | program => ["[OPTIONS]", "<COMMAND>"]
  | verb v => "[OPTIONS]" :: v.positionals.map (·.label)
  | help => ["[COMMAND]..."]

def Topic.usage (topic : Topic) : String :=
  String.intercalate " " (topic.path :: topic.pattern)

/-- What follows every argument of a level. -/
def Level.tail : Level → List String
  | top => ["<COMMAND>"]
  | inner _ => []

/-- The usage line that shows the options that were given, in place of the general mark. -/
def Level.usageWith (level : Level) (given : List Argument) : String :=
  if given.isEmpty then level.topic.usage
  else
    String.intercalate " " (level.topic.path :: (given.filter (!·.isPositional)).map (·.label) ++
      level.positionals.map (·.label) ++ level.tail)

/-- The level's own arguments as one choice. -/
def Level.choice (level : Level) : String :=
  "<" ++ String.intercalate "|" (level.ownArguments.map fun
    | .positional p => p.name
    | option => option.label) ++ ">"

/-- The usage line for a flag. The level's own arguments stand in it as one choice as soon as one of
them was given. -/
def Level.usageForFlag (level : Level) (flag : Argument) (given : List Argument) : String :=
  let chosen := given.any (level.ownArguments.contains ·)
  let isShown (a : Argument) : Bool := !a.isPositional && !(chosen && a ∈ level.ownArguments)
  let options := ((given.filter (· ≠ flag) ++ [flag]).filter isShown).map (·.label)
  let own := if chosen then [level.choice] else level.positionals.map (·.label)
  String.intercalate " " (level.topic.path :: options ++ own ++ level.tail)

def Topic.helpText (topic : Topic) (colours : Bool) : String :=
  topic.about ++ "\n\n" ++ Tone.heading.paint colours "Usage:" ++ " " ++
    String.intercalate " " (Tone.strong.paint colours topic.path :: topic.pattern) ++ "\n" ++
    block colours "Commands" topic.commandRows ++ block colours "Arguments" topic.argumentRows ++
    block colours "Options" topic.optionRows

def versionText : String := programName ++ " " ++ version ++ "\n"

/-! ## Mistakes -/

def Tip.text : Tip → String
  | escape word => "to pass '" ++ word ++ "' as a value, use '-- " ++ word ++ "'"
  | removeEscape word =>
    "subcommand '" ++ word ++ "' exists; to use it, remove the '--' before it"

/-- The first line, further lines, and a hint at the help. -/
def mistake (summary : String) (more : String) : String :=
  "error: " ++ summary ++ more ++ "\n\nFor more information, try '--help'.\n"

def usageBlock (usage : String) : String := "\n\nUsage: " ++ usage

def tipBlock : Option Tip → String
  | none => ""
  | some tip => "\n\n  tip: " ++ tip.text

def subcommandNames : String :=
  String.intercalate ", " (Verb.all.map (·.name) ++ [helpWord])

namespace Refusal

def text : Refusal → String
  | help topic => topic.helpText false
  | version => versionText
  | nothingAsked => Topic.program.helpText false
  | missingSubcommand =>
    mistake ("'" ++ programName ++ "' requires a subcommand but one was not provided")
      ("\n  [subcommands: " ++ subcommandNames ++ "]" ++ usageBlock Topic.program.usage)
  | unknownSubcommand .help word =>
    "error: unrecognized subcommand '" ++ word ++ "'" ++ usageBlock Topic.help.usage ++ "\n"
  | unknownSubcommand topic word =>
    mistake ("unrecognized subcommand '" ++ word ++ "'") (usageBlock topic.usage)
  | unknownArgument level word tip given =>
    mistake ("unexpected argument '" ++ word ++ "' found")
      (tipBlock tip ++ usageBlock (level.usageWith given))
  | emptyValue argument =>
    mistake ("a value is required for '" ++ argument.label ++ "' but none was supplied") ""
  | unknownShell word =>
    mistake
      (if word = "" then
        "a value is required for '" ++ Positional.shell.label ++ "' but none was supplied"
      else "invalid value '" ++ word ++ "' for '" ++ Positional.shell.label ++ "'")
      ("\n  " ++ possibleShells)
  | valueForFlag level flag value given =>
    mistake ("unexpected value '" ++ value ++ "' for '" ++ flag.label ++
      "' found; no more were expected") (usageBlock (level.usageForFlag flag given))
  | repeated level argument =>
    mistake ("the argument '" ++ argument.label ++ "' cannot be used multiple times")
      (usageBlock level.topic.usage)
  | missing verb positionals given =>
    mistake "the following required arguments were not provided:"
      (String.join (positionals.map fun p => "\n  " ++ p.label) ++
        usageBlock (String.intercalate " " ((Topic.verb verb).path ::
          (given.filter (!·.isPositional)).map (·.label) ++ verb.positionals.map (·.label))))

/-- What is printed for a refusal on a console: only help that was asked for has colours. -/
def printed (colours : Bool) : Refusal → String
  | help topic => topic.helpText colours
  | refusal => refusal.text

end Refusal

end BenchCheckout.CommandLine

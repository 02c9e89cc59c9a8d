/-!
# The command line

The words behind the program's name make an `Invocation`: a config option, and a subcommand with its
arguments. This module has the vocabulary: subcommands (`Verb`), their positional arguments, the
options, and why a list of words is no invocation (`Refusal`).
-/

namespace BenchCheckout.CommandLine

def programName : String := "d4j-prep"

def version : String := "0.1.0"

/-- The shells that completions can be generated for. -/
inductive Shell where
  | bash
  | elvish
  | fish
  | powershell
  | zsh
deriving DecidableEq, Repr

namespace Shell

def all : List Shell := [bash, elvish, fish, powershell, zsh]

def name : Shell → String
  | bash => "bash"
  | elvish => "elvish"
  | fish => "fish"
  | powershell => "powershell"
  | zsh => "zsh"

def ofName? (s : String) : Option Shell := all.find? (·.name == s)

end Shell

inductive Positional where
  | project
  | path
  | shell
deriving DecidableEq, Repr

def Positional.name : Positional → String
  | project => "PROJECT"
  | path => "PATH"
  | shell => "SHELL"

def Positional.label (p : Positional) : String := "<" ++ p.name ++ ">"

/-- The subcommands, apart from the one that prints help. -/
inductive Verb where
  | checkout
  | fetch
  | instrument
  | doctor
  | init
  | completions
deriving DecidableEq, Repr

namespace Verb

def all : List Verb := [checkout, fetch, instrument, doctor, init, completions]

def name : Verb → String
  | checkout => "checkout"
  | fetch => "fetch"
  | instrument => "instrument"
  | doctor => "doctor"
  | init => "init"
  | completions => "completions"

def ofName? (s : String) : Option Verb := all.find? (·.name == s)

def positionals : Verb → List Positional
  | checkout | fetch | instrument => [.project, .path]
  | doctor | init => []
  | completions => [.shell]

/-- The archive's cache can be passed over. -/
def hasNoCache : Verb → Bool
  | checkout => true
  | _ => false

end Verb

/-- Where words are read: before the subcommand or behind it. -/
inductive Level where
  | top
  | inner (verb : Verb)
deriving DecidableEq, Repr

/-- What help can be asked for. -/
inductive Topic where
  | program
  | verb (verb : Verb)
  | help
deriving DecidableEq, Repr

def Level.topic : Level → Topic
  | top => .program
  | inner verb => .verb verb

def Level.positionals : Level → List Positional
  | top => []
  | inner verb => verb.positionals

/-- An argument that a level can be given. -/
inductive Argument where
  | config
  | noCache
  | help
  | version
  | positional (p : Positional)
deriving DecidableEq, Repr

namespace Argument

def label : Argument → String
  | config => "--config <CONFIG>"
  | noCache => "--no-cache"
  | help => "--help"
  | version => "--version"
  | positional p => p.label

def isPositional : Argument → Bool
  | positional _ => true
  | _ => false

end Argument

/-- The arguments that a level has of its own, apart from help and version. -/
def Level.ownArguments : Level → List Argument
  | top => [.config]
  | inner verb => verb.positionals.map .positional ++ (if verb.hasNoCache then [.noCache] else [])

/-- The word for subcommand help. -/
def helpWord : String := "help"

/-! ## Invocations -/

inductive Command where
  | checkout (project path : String) (noCache : Bool)
  | fetch (project path : String)
  | instrument (project path : String)
  | doctor
  | init
  | completions (shell : Shell)
deriving DecidableEq, Repr

structure Invocation where
  /-- The config file that was named, the one behind the subcommand before the one in front. -/
  config : Option String
  command : Command
deriving DecidableEq, Repr

/-! ## Refusals -/

/-- Advice under a refusal. -/
inductive Tip where
  /-- Put the escape in front of a word that starts with a dash. -/
  | escape (word : String)
  /-- Take the escape away from a subcommand. -/
  | removeEscape (word : String)
deriving DecidableEq, Repr

/-- Why there is no invocation. Asking for help or the version is one of the reasons. -/
inductive Refusal where
  | help (topic : Topic)
  | version
  /-- No word was given that means anything. -/
  | nothingAsked
  | missingSubcommand
  | unknownSubcommand (topic : Topic) (word : String)
  /-- `given` are the arguments of the level that the usage line shows. -/
  | unknownArgument (level : Level) (word : String) (tip : Option Tip) (given : List Argument)
  | emptyValue (argument : Argument)
  | unknownShell (word : String)
  | valueForFlag (level : Level) (flag : Argument) (value : String) (given : List Argument)
  | repeated (level : Level) (argument : Argument)
  | missing (verb : Verb) (positionals : List Positional) (given : List Argument)
deriving DecidableEq, Repr

/-- Help and version are answers, all else is a mistake. -/
def Refusal.isMistake : Refusal → Bool
  | help _ | version => false
  | _ => true

end BenchCheckout.CommandLine

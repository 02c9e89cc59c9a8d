import BenchCheckout.CommandLine.Usage

/-!
# Texts of libraries

What is told of words that are refused, and the completion script of a shell, are not the program's
own: libraries write them, and `Texts` stands for these. `Texts.plain` is a stand-in to run the
program with. Its refusals have no hints at similar names, and its scripts list the words that a
shell can offer, in no shell's language.
-/

namespace BenchCheckout.CommandLine

/-- What the libraries write. -/
structure Texts where
  /-- What is told of words that are refused for a reason, in colours or without. -/
  told : List String → Refusal → Bool → String
  script : Shell → String

/-- The subcommands and the long options, under the shell's name. -/
def wordList (shell : Shell) : String :=
  shell.name ++ ": " ++ String.intercalate " " (Verb.all.map (·.name) ++
    [helpWord, "--config", "--no-cache", "--help", "--version"]) ++ "\n"

def Texts.plain : Texts where
  told _ refusal colours := refusal.printed colours
  script := wordList

/-- The plain script for `shell` has `word` in it. -/
def offers (shell : Shell) (word : String) : Bool := (Texts.plain.script shell).contains word

end BenchCheckout.CommandLine

import BenchCheckout.Text.Replace

/-!
# Colours on a console

A `Style` is painted with escape sequences: the emphasis first, then the hue, and a reset behind the
text. Where colours are off the text stays as it is.
-/

namespace BenchCheckout.Console

inductive Emphasis where
  | bold
  | dimmed
deriving DecidableEq, Repr

inductive Hue where
  | red
  | green
  | yellow
  | cyan
deriving DecidableEq, Repr

structure Style where
  emphasis : Option Emphasis
  hue : Option Hue
deriving DecidableEq, Repr

def Emphasis.code : Emphasis → String
  | bold => "1"
  | dimmed => "2"

def Hue.code : Hue → String
  | red => "31"
  | green => "32"
  | yellow => "33"
  | cyan => "36"

namespace Style

def bold : Style := ⟨some .bold, none⟩

def dimmed : Style := ⟨some .dimmed, none⟩

def hued (hue : Hue) : Style := ⟨none, some hue⟩

def boldHued (hue : Hue) : Style := ⟨some .bold, some hue⟩

/-- The sequence that switches a style on. -/
def mark (s : Style) : String :=
  let codes := (s.emphasis.map (·.code)).toList ++ (s.hue.map (·.code)).toList
  "\x1b[" ++ String.intercalate ";" codes ++ "m"

/-- The sequence that switches every style off. -/
def reset : String := "\x1b[0m"

/-- A text in a style. Behind a reset in the text itself the style is switched on again. -/
def paint (colours : Bool) (s : Style) (text : String) : String :=
  if colours then
    s.mark ++
      String.ofList
        (Text.replaceAll reset.toList (reset ++ s.mark).toList text.toList) ++ reset
  else text

end Style

/-- Colours are on exactly if the environment forces them: a program that runs in another one has no
console of its own. -/
def wantsColours (env : String → Option String) : Bool :=
  match env "CLICOLOR_FORCE" with
  | some value => value != "0"
  | none => false

/-- Help has colours if the environment forces them by any value and does not forbid them. -/
def wantsColouredHelp (env : String → Option String) : Bool :=
  (env "CLICOLOR_FORCE").getD "" != "" && (env "NO_COLOR").getD "" == ""

end BenchCheckout.Console

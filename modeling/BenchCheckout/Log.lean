import BenchCheckout.Log.Filter
import BenchCheckout.Text.Quoted

/-!
# Log lines

A `Log.Entry` has a level, the area of the program that it comes from, a message and fields.
`Entry.written` is what a setting makes of it: a line, or nothing where the filter does not let it
pass.
-/

namespace BenchCheckout.Log

structure Entry where
  level : Level
  area : String
  message : String
  /-- Names and values, as they are written. -/
  fields : List (String × String)
deriving DecidableEq, Repr

/-- How lines are written: which of them, with what time stamp, and with colours or without. -/
structure Setting where
  filter : Filter
  stamp : String
  colours : Bool

/-- Colours are on unless the environment says no. -/
def wantsColours (env : String → Option String) : Bool :=
  (env "NO_COLOR").getD "" == ""

namespace Entry

/-- Codes of the escape sequences for dimmed and slanted text. -/
def dimmed : String := "2"

def slanted : String := "3"

def Level.hue : Level → String
  | .error => "31"
  | .warn => "33"
  | .info => "32"
  | .debug => "34"
  | .trace => "35"

def mark (colours : Bool) (code text : String) : String :=
  if colours then "\x1b[" ++ code ++ "m" ++ text ++ "\x1b[0m" else text

/-- The line of an entry, with its line feed. -/
def line (setting : Setting) (e : Entry) : String :=
  let mark := mark setting.colours
  let field (f : String × String) := " " ++ mark slanted f.1 ++ mark dimmed "=" ++ f.2
  mark dimmed setting.stamp ++ " " ++ mark (Level.hue e.level) e.level.label ++ " " ++
    mark dimmed e.area ++ mark dimmed ":" ++ " " ++ e.message ++
    String.join (e.fields.map field) ++ "\n"

/-- The names of an entry's fields; the message is one of them. -/
def fieldNames (e : Entry) : List String := "message" :: e.fields.map (·.1)

/-- What is written of an entry. -/
def written (setting : Setting) (e : Entry) : String :=
  if setting.filter.allows e.level e.area e.fieldNames then e.line setting else ""

end Entry

end BenchCheckout.Log

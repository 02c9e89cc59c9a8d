import BenchCheckout.Shell.Printing
import BenchCheckout.Utility.Desk
import BenchCheckout.Utility.Names

/-!
# Utilities that only print

`echo`, `printf`, `pwd`, `basename`, `dirname` and `sleep`. Nobody waits for time to pass here.
-/

namespace BenchCheckout.Utility

open Step

namespace Echo

/-- The words behind the options, whether a line feed is left out, and whether escapes count. -/
def options : List String → (List String × Bool × Bool) → List String × Bool × Bool
  | [], (_, bare, escapes) => ([], bare, escapes)
  | w :: ws, (_, bare, escapes) =>
    match w.toList with
    | '-' :: c :: cs =>
      if (c :: cs).all (· ∈ ['n', 'e', 'E']) then
        let bare := bare || 'n' ∈ c :: cs
        let escapes := (c :: cs).foldl (fun b d => if d = 'n' then b else d == 'e') escapes
        options ws ([], bare, escapes)
      else (w :: ws, bare, escapes)
    | _ => (w :: ws, bare, escapes)

def utility : Step Unit := do
  let (words, bare, escapes) := options (← get).args ([], false, false)
  let text := String.intercalate " " words
  if escapes then
    let (s, stop) := Shell.Printing.escaped text
    say (String.ofList s ++ if bare || stop then "" else "\n")
  else say (text ++ if bare then "" else "\n")

end Echo

namespace Printf

def text : Shell.Printing.Complaint → String
  | .notNumeric w => Quoting.plain w ++ ": expected a numeric value"
  | .notConverted w => Quoting.plain w ++ ": value not completely converted"
  | .tooGreat w => Quoting.plain w ++ ": Numerical result out of range"

def utility : Step Unit := do
  match (← get).args with
  | [] => complainUsage 1 "missing operand"
  | w :: ws =>
    let words := if w = "--" then ws else w :: ws
    match words with
    | [] => complainUsage 1 "missing operand"
    | format :: words => do
      let p := Shell.Printing.formatted format words
      say (String.ofList p.text)
      forEach (fun c => complain (text c)) p.complaints
      match p.stop with
      | some .noKind => complain "missing conversion specifier"
      | some (.badDirective d) => complain (d ++ ": invalid conversion specification")
      | _ => pure ()

end Printf

namespace WorkingDir

def utility : Step Unit := do say (Octets.ofText (← get).cwd.text ++ "\n")

end WorkingDir

namespace BaseName

def rules : List OptionRule :=
  [.flag "multiple" ['a'] ["multiple"], .valued "suffix" ['s'] ["suffix"],
    .flag "zero" ['z'] ["zero"]]

/-- The last name of a path; the root has its own. -/
def nameOf (path : String) : String :=
  if path ≠ "" ∧ Names.base path = "" then "/" else Names.base path

/-- A name without an end that is not all of it. -/
def withoutEnd (name ending : String) : String :=
  let (n, e) := (name.toList, ending.toList)
  if e.isSuffixOf n ∧ e.length < n.length then String.ofList (n.take (n.length - e.length))
  else name

def utility : Step Unit := do
  let o := Options.read (rules ++ commonRules) true (← get).args
  let finish := if o.has "zero" then "\x00" else "\n"
  match o.flaw, o.words with
  | some flaw, _ => complainUsage 1 flaw
  | none, [] => complainUsage 1 "missing operand"
  | none, words =>
    if o.has "multiple" ∨ o.has "suffix" then
      let ending := (o.value? "suffix").getD ""
      forEach (fun w => say (withoutEnd (nameOf w) ending ++ finish)) words
    else match words with
      | [w] => say (nameOf w ++ finish)
      | [w, ending] => say (withoutEnd (nameOf w) ending ++ finish)
      | _ :: _ :: extra :: _ => complainUsage 1 ("extra operand " ++ Quoting.plain extra)
      | [] => pure ()

end BaseName

namespace DirName

def utility : Step Unit :=
  withOptions [.flag "zero" ['z'] ["zero"]] 1 fun o =>
    if o.words.isEmpty then complainUsage 1 "missing operand"
    else forEach (fun w => say (Names.dir w ++ if o.has "zero" then "\x00" else "\n")) o.words

end DirName

namespace Sleep

/-- A number of seconds, minutes, hours or days. -/
def isDuration (w : String) : Bool :=
  let ds := w.toList.takeWhile fun c => c.isDigit || c == '.'
  let rest := w.toList.drop ds.length
  ds.any Char.isDigit && (ds.filter (· == '.')).length < 2 &&
    (rest.isEmpty || rest == ['s'] || rest == ['m'] || rest == ['h'] || rest == ['d'])

def utility : Step Unit :=
  withOptions [] 1 fun o => do
    if o.words.isEmpty then complainUsage 1 "missing operand"
    else
      let bad := o.words.filter (!isDuration ·)
      if bad ≠ [] then
        forEach (fun w => complain ("invalid time interval " ++ Quoting.plain w)) bad
        printError ("Try '" ++ (← get).name ++ " --help' for more information.\n")

end Sleep

end BenchCheckout.Utility

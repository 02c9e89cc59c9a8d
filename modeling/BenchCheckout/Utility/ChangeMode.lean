import BenchCheckout.Utility.Desk
import BenchCheckout.Utility.Mode
import BenchCheckout.Utility.Names

/-!
# Changing modes

`chmod`. Of a mode no more is kept than whether the file can be executed.
-/

namespace BenchCheckout.Utility.ChangeMode

open Step

/-- The mode of an entry. -/
def modeOf : Entry → Nat
  | .file _ executable _ => Mode.ofFile executable
  | .directory => 0o755
  | .link _ => 0o777

def tellsAll (o : Options) : Bool := o.last? ["verbose", "changes"] == some "verbose"

/-- A mode as it is shown. -/
def shown (mode : Nat) : String := Mode.digits mode ++ " (" ++ Mode.letters mode ++ ")"

/-- Tell of a change. -/
def tell (o : Options) (path : String) (old new : Nat) : Step Unit := do
  if old ≠ new then
    if o.has "verbose" ∨ o.has "changes" then
      say ("mode of " ++ Quoting.always path ++ " changed from " ++ shown old ++ " to " ++
        shown new ++ "\n")
  else if tellsAll o then
    say ("mode of " ++ Quoting.always path ++ " retained as " ++ shown new ++ "\n")

/-- Change an entry, and what lies below it if that is wanted. So many directories may be left to
go into. -/
def changeOne (o : Options) (change : Bool → Nat → Nat) : Nat → Bool → String → Step Unit
  | 0, _, _ => pure ()
  | depth + 1, isOperand, path => do
    match ← stat isOperand path with
    | .error fault =>
      if !o.has "silent" then
        let isDangling := (← scene).isLink path
        if isDangling then
          complain ("cannot operate on dangling symlink " ++ Quoting.always path)
        else complainOf ("cannot access " ++ Quoting.always path) fault
      else setStatus 1
      if tellsAll o then say (Quoting.always path ++ " could not be accessed\n")
    | .ok (_, .link _) =>
      if tellsAll o then
        say ("neither symbolic link " ++ Quoting.always path ++
          " nor referent has been changed\n")
    | .ok (l, e) => do
      let old := modeOf e
      let new := change e.isDirectory old
      if let .file bytes _ _ := e then
        let executable := Mode.isExecutable new
        setFiles ((← files).fill l bytes executable)
      tell o path old new
      if o.has "recursive" ∧ e.isDirectory then
        let names := ((← scene).list path).toOption.getD []
        forEach (fun n => changeOne o change depth false (Names.concat path n)) names

def rules : List OptionRule :=
  [.flag "changes" ['c'] ["changes"], .flag "recursive" ['R'] ["recursive"],
    .flag "noRoot" [] ["no-preserve-root"], .flag "root" [] ["preserve-root"],
    .flag "silent" ['f'] ["quiet", "silent"], .valued "reference" [] ["reference"],
    .flag "verbose" ['v'] ["verbose"]]

/-- Letters of modes that may stand where options do. -/
def isModeLetter (c : Char) : Bool :=
  c ∈ ['r', 'w', 'x', 'X', 's', 't', 'u', 'g', 'o', 'a', ',', '+', '=', '0', '1', '2', '3', '4',
    '5', '6', '7']

/-- The word is a mode though it looks like options. -/
def isModeWord (w : String) : Bool :=
  match w.toList with
  | '-' :: c :: cs => isModeLetter c && cs.all fun d => isModeLetter d || d == '-'
  | _ => false

/-- The words in front of the end of options that are modes though they look like options, and the
other words. -/
def splitModes : List String → List String × List String
  | [] => ([], [])
  | "--" :: ws => ([], "--" :: ws)
  | w :: ws =>
    let (modes, others) := splitModes ws
    if isModeWord w then (w :: modes, others) else (modes, w :: others)

def changeAll (o : Options) (mode : String) (paths : List String) : Step Unit :=
  match Mode.change? mode with
  | none => complainUsage 1 ("invalid mode: " ++ Quoting.plain mode)
  | some change => forEach (changeOne o change 4096 true) paths

def utility : Step Unit := do
  let (modes, args) := splitModes (← get).args
  modify ({ · with args })
  withOptions rules 1 fun o =>
    match o.value? "reference", modes, o.words with
    | some _, _ :: _, _ => complainUsage 1 "cannot combine mode and --reference options"
    | some _, [], [] | none, [], [] | none, _ :: _, [] => complainUsage 1 "missing operand"
    | some path, [], words => do
      match ← stat true path with
      | .error fault => complainOf ("failed to get attributes of " ++ Quoting.always path) fault
      | .ok (_, e) => changeAll o (Mode.digits (modeOf e)) words
    | none, m :: ms, words => changeAll o (String.intercalate "," (m :: ms)) words
    | none, [], [mode] => complainUsage 1 ("missing operand after " ++ Quoting.plain mode)
    | none, [], mode :: paths => changeAll o mode paths

end BenchCheckout.Utility.ChangeMode

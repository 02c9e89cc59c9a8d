import BenchCheckout.Utility.Mode
import BenchCheckout.Utility.Tar.Naming

/-!
# Lists of members

A member is listed by its name, or by a line with its kind and mode, owner, size and time.
-/

namespace BenchCheckout.Utility.Tar.Listing

open Work

/-! ## Times -/

/-- Days from a year's first of March to the next one. -/
def eraDays : Nat := 146097

structure Date where
  year : Nat
  month : Nat
  day : Nat

/-- The date of a day counted from the first of January 1970. Years are counted from March here, in
spans of 400. -/
def dateOf (days : Nat) : Date :=
  let z := days + 719468
  let era := z / eraDays
  let inEra := z % eraDays
  let year := (inEra - inEra / 1460 + inEra / 36524 - inEra / 146096) / 365
  let inYear := inEra - (365 * year + year / 4 - year / 100)
  let m := (5 * inYear + 2) / 153
  let day := inYear - (153 * m + 2) / 5 + 1
  let month := if m < 10 then m + 3 else m - 9
  ⟨era * 400 + year + (if month ≤ 2 then 1 else 0), month, day⟩

def twoDigits (n : Nat) : String := if n < 10 then "0" ++ n.repr else n.repr

def timeText (withSeconds : Bool) (time : Nat) : String :=
  let date := dateOf (time / 86400)
  let inDay := time % 86400
  let seconds := if withSeconds then ":" ++ twoDigits (inDay % 60) else ""
  date.year.repr ++ "-" ++ twoDigits date.month ++ "-" ++ twoDigits date.day ++ " " ++
    twoDigits (inDay / 3600) ++ ":" ++ twoDigits (inDay / 60 % 60) ++ seconds

/-! ## Lines -/

/-- There is a slash behind the name, which is not the name of the root. -/
def isSlashed (name : String) : Bool := Names.endsInSlash name && name ≠ "/"

/-- The letter of a kind of member. -/
def kindLetter (h : Tape.Header) : Char :=
  match h.kind with
  | '0' | '\x00' | 'S' => if isSlashed h.name then 'd' else '-'
  | '1' => 'h'
  | '2' => 'l'
  | '3' => 'c'
  | '4' => 'b'
  | '5' | 'D' => 'd'
  | '6' => 'p'
  | '7' => 'C'
  | 'V' => 'V'
  | 'M' => 'M'
  | _ => '?'

/-- The letters of a mode. Those for executing tell of the three bits in front of the others too. -/
def modeLetters (mode : Nat) : String :=
  let letters := (Mode.letters (mode % 0o1000)).toList
  let special (bit : Nat) (c : Char) (marked plain : Char) : Char :=
    if mode / bit % 2 = 1 then (if c = 'x' then marked else plain) else c
  String.ofList (letters.zipIdx.map fun (c, i) =>
    if i = 2 then special 0o4000 c 's' 'S'
    else if i = 5 then special 0o2000 c 's' 'S'
    else if i = 8 then special 0o1000 c 't' 'T'
    else c)

/-- What is behind the name of a member. -/
def behindName (h : Tape.Header) (target : String) : String :=
  match h.kind with
  | '2' => " -> " ++ escaped target
  | '1' => " link to " ++ escaped target
  | '0' | '\x00' | 'S' | '3' | '4' | '5' | '6' | '7' | 'D' => ""
  | 'V' => "--Volume Header--"
  | 'M' => "--Continued at byte 0--"
  | c => " unknown file type '" ++ escaped c.toString ++ "'"

def padded (width : Nat) (s : String) : String :=
  String.ofList (List.replicate (width - s.length) ' ') ++ s

/-- List a member under a name, with the target that it has as a link. -/
def line (r : Request) (h : Tape.Header) (name target : String) : Work Unit := do
  let size := match h.kind with
    | '3' | '4' => "0,0"
    | _ => h.size.repr
  let owner := if r.numbersOnly then "0" else escaped h.owner
  let group := if r.numbersOnly then "0" else escaped h.group
  let used := owner.length + group.length + size.length + 1
  let width := max used (← get : Trip).width
  modify fun t => { t with width }
  list (String.ofList [kindLetter h] ++ modeLetters h.mode ++ " " ++ owner ++ "/" ++ group ++ " " ++
    padded (width - used + size.length) size ++ " " ++ timeText r.fullTime h.time ++ " " ++
    escaped name ++ behindName h target)

/-- List a member as it is asked for. -/
def member (r : Request) (h : Tape.Header) (placed target : String) : Work Unit :=
  let name := if r.showsResult then placed else h.name
  if r.verbosity = 0 then pure ()
  else if r.verbosity = 1 then list (escaped name)
  else line r h name target

/-- Tell of a directory that is made above a member. -/
def madeDirectory (r : Request) (path : String) : Work Unit := do
  if 1 < r.verbosity then
    let width := (← get : Trip).width
    list ("drwxr-xr-x " ++ padded (width + 18) "Creating directory:" ++ " " ++ escaped path)

end BenchCheckout.Utility.Tar.Listing

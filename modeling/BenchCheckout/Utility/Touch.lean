import BenchCheckout.Utility.Desk
import BenchCheckout.Utility.Names

/-!
# Touching files

`touch` makes files that are missing. Times are not kept, so that nothing else comes of it; they are
only checked.
-/

namespace BenchCheckout.Utility.Touch

open Step

/-- Words that a date may start with if there is no digit in it. -/
def dateWords : List String :=
  ["now", "today", "yesterday", "tomorrow", "next", "last", "this", "mon", "tue", "wed", "thu",
    "fri", "sat", "sun", "noon", "midnight", "utc", "gmt"]

def isDate (s : String) : Bool :=
  let lower := s.map Char.toLower
  s.toList.any Char.isDigit || s.length ≤ 1 || dateWords.any fun w => lower.startsWith w

/-- A time in digits: month, day, hour and minute, and a year in front and seconds behind. -/
def isStamp (s : String) : Bool :=
  let ds := s.toList.takeWhile (· ≠ '.')
  let seconds := s.toList.drop ds.length
  ds.all Char.isDigit && (ds.length == 8 || ds.length == 10 || ds.length == 12) &&
    (seconds.isEmpty || (seconds.length == 3 && (seconds.drop 1).all Char.isDigit))

/-- Touch a file. Links are touched themselves if `links`, and then, or if `keeps`, nothing is made
that is missing. -/
def touchOne (keeps links : Bool) (path : String) : Step Unit := do
  let settingTimes (fault : Fault) : Step Unit :=
    complainOf ("setting times of " ++ Quoting.always path) fault
  if path = "-" then pure ()
  else if keeps || links then
    match ← stat (!links) path with
    | .ok _ => pure ()
    | .error .noEntry => if keeps then pure () else settingTimes .noEntry
    | .error fault => settingTimes fault
  else match ← openFile path ⟨false, true, true, false, false, false⟩ with
    | .ok _ => pure ()
    | .error .isDirectory =>
      if let .error fault := ← stat true path then settingTimes fault
    | .error fault => complainOf ("cannot touch " ++ Quoting.always path) fault

/-- What is wrong with the reference file or the date that is asked for. -/
def timeFlaw (o : Options) : Step (Option String) := do
  let date? := (o.value? "date").filter (!isDate ·)
  let dateFlaw? := date?.map fun s => "invalid date format " ++ Quoting.always s
  match o.value? "reference" with
  | none => pure dateFlaw?
  | some path =>
    match ← stat true path with
    | .ok _ => pure dateFlaw?
    | .error fault =>
      pure (some ("failed to get attributes of " ++ Quoting.always path ++ ": " ++ fault.summary))

def rules : List OptionRule :=
  [.flag "access" ['a'] [], .flag "change" ['m'] [], .valued "time" [] ["time"],
    .flag "keep" ['c'] ["no-create"], .valued "date" ['d'] ["date"],
    .valued "reference" ['r'] ["reference"], .valued "stamp" ['t'] [],
    .flag "old" ['f'] [], .flag "links" ['h'] ["no-dereference"]]

def utility : Step Unit :=
  withOptions rules 1 fun o =>
    match (o.values "stamp").find? (!isStamp ·) with
    | some stamp => complain ("invalid date format " ++ Quoting.always stamp)
    | none =>
      if o.has "stamp" ∧ (o.has "date" ∨ o.has "reference") then
        complainUsage 1 "cannot specify times from more than one source"
      else do
        match ← timeFlaw o with
        | some flaw => complain flaw
        | none =>
          if o.words.isEmpty then complainUsage 1 "missing file operand"
          else forEach (touchOne (o.has "keep") (o.has "links")) o.words

end BenchCheckout.Utility.Touch

import BenchCheckout.Utility.Tar.Extract

/-!
# Comparing members with files

A member is compared with the file that it would be extracted as: kind, content and target.
-/

namespace BenchCheckout.Utility.Tar.Compare

open Work

/-- A difference, which is told in the list of names. -/
def differs (name what : String) : Work Unit := do
  list (escaped name ++ ": " ++ what)
  (Step.setStatus (max 1 (← (get : Step Desk)).status) : Step Unit)

/-- There is nothing to compare with. -/
def lacks (name what : String) (fault : Fault) : Work Unit := do
  warn (shown name ++ ": Warning: Cannot " ++ what ++ ": " ++ fault.summary)
  (Step.setStatus (max 1 (← (get : Step Desk)).status) : Step Unit)

def compareFile (s : Source) (m : Tape.Member) (name : String) : Entry → Work Unit
  | .file bytes _ _ =>
    if bytes.size ≠ m.header.size then differs name "Size differs"
    else if bytes.data ≠ (Tape.contentAt s.data m.content m.header.size).data then
      differs name "Contents differ"
    else pure ()
  | _ => differs name "File type differs"

/-- Compare a member. The block that is read next. -/
def member (r : Request) (s : Source) (m : Tape.Member) (name target : String) : Work Nat := do
  Listing.member r m.header name target
  let isLink := m.header.kind = '2'
  match ← (Step.stat false name : Step _), Extract.mannerOf m.header with
  | .error fault, .nothing => lacks name "stat" fault
  | .error fault, _ => lacks name (if isLink then "readlink" else "stat") fault
  | .ok (_, e), .file => compareFile s m name e
  | .ok (_, e), .directory => if !e.isDirectory then differs name "File type differs"
  | .ok (_, .link found), .symbolicLink =>
    if Octets.ofText found ≠ target then differs name "Symlink differs"
  | .ok _, .symbolicLink => lacks name "readlink" .invalidArgument
  | .ok _, .hardLink => do
    if !(← (Extract.isLinked name target : Step _)) then
      differs name ("Not linked to " ++ target)
  | .ok _, .nothing => pure ()
  Extract.behind s m

end BenchCheckout.Utility.Tar.Compare

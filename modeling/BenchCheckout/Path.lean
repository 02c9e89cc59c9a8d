import BenchCheckout.Files.Fault

/-!
# Paths as texts

A path is the text that a user or a config gives. These functions work on the text alone and never
ask the file system: `join`, `absolute`, `parent?`, `withExtension`.

`pieces p` cuts `p` at each slash; nothing is lost (`ofPieces_pieces`). A piece that is empty or `.`
says nothing about the place, with two exceptions: an empty first piece is the root, and a first
piece `.` counts as a component.
-/

namespace BenchCheckout.Path

/-! ## Pieces -/

/-- Cut a text at each `sep`. There is one piece more than there are separators. -/
def cut (sep : Char) : List Char → List (List Char)
  | [] => [[]]
  | c :: cs =>
    if c = sep then [] :: cut sep cs
    else match cut sep cs with
      | [] => [[c]]
      | l :: ls => (c :: l) :: ls

/-- The texts with a slash between each two. -/
def glue (ls : List (List Char)) : List Char := (ls.intersperse ['/']).flatten

def pieces (p : String) : List String := (cut '/' p.toList).map String.ofList

def ofPieces (ps : List String) : String := String.ofList (glue (ps.map String.toList))

theorem cut_ne_nil (sep : Char) (s : List Char) : cut sep s ≠ [] := by
  cases s with
  | nil => simp [cut]
  | cons c cs =>
    rw [cut]
    split
    · simp
    · split <;> simp

/-- Nothing is lost by a cut. -/
theorem intercalate_cut (sep : Char) (s : List Char) : [sep].intercalate (cut sep s) = s := by
  induction s with
  | nil => rfl
  | cons c cs ih =>
    rw [cut]
    cases h : cut sep cs with
    | nil => exact absurd h (cut_ne_nil _ _)
    | cons l ls =>
      rw [h] at ih
      split
      · subst c
        simpa [List.intercalate, List.intersperse] using ih
      · cases ls <;> simp_all [List.intercalate, List.intersperse]

theorem glue_cut (s : List Char) : glue (cut '/' s) = s := intercalate_cut '/' s

theorem ofPieces_pieces (p : String) : ofPieces (pieces p) = p := by
  have h : (String.toList ∘ String.ofList) = (id : List Char → List Char) := by
    funext l; simp
  simp [ofPieces, pieces, h, glue_cut]

/-- A piece that leads nowhere: empty or `.`. -/
def isIdle (piece : String) : Bool := piece == "" || piece == "."

def startsAtRoot (p : String) : Bool := p.toList.head? == some '/'

def endsWithSlash (p : String) : Bool := p.toList.getLast? == some '/'

/-- The steps of a path below its start: its pieces without the idle ones. -/
def steps (p : String) : List String := (pieces p).filter (!isIdle ·)

/-! ## Joining -/

/-- `b` as seen from `a`. A `b` that starts at the root replaces `a`. -/
def join (a b : String) : String :=
  if startsAtRoot b then b
  else if a = "" ∨ endsWithSlash a then a ++ b
  else a ++ "/" ++ b

/-! ## Absolute paths -/

/-- What an absolute path starts with: exactly two slashes are kept, more are one. -/
def rootMark (p : String) : String :=
  match p.toList with
  | '/' :: '/' :: '/' :: _ => "/"
  | '/' :: '/' :: _ => "//"
  | _ => "/"

/-- `p` from `cwd`, without idle pieces; `..` stays, and so does one slash at the end. -/
def absolute (cwd p : String) : Except Fault String :=
  if p = "" then .error .emptyPath
  else
    let start := if startsAtRoot p then rootMark p else cwd
    let full := (steps p).foldl join start
    .ok (if endsWithSlash p then join full "" else full)

/-! ## Components -/

/-- The pieces that count: those that are not idle, and a first piece that is empty (the root) or
`.`, unless it is all there is of an empty text. -/
def components (p : String) : List String :=
  match pieces p with
  | [] => []
  | "" :: ps => (if startsAtRoot p then ["/"] else []) ++ ps.filter (!isIdle ·)
  | q :: ps => q :: ps.filter (!isIdle ·)

/-- Pieces without the idle ones at the end; a first piece stays. -/
def trimIdle (ps : List String) : List String :=
  match ps with
  | [] => []
  | q :: qs => q :: (qs.reverse.dropWhile isIdle).reverse

/-- The path of the directory that a path's last component lies in, as it is written. The root and
the empty path have none. -/
def parent? (p : String) : Option String :=
  match trimIdle (pieces p) with
  | [] | [""] => none
  | ps =>
    match trimIdle ps.dropLast with
    | [] => some ""
    | [""] => some "/"
    | qs => some (ofPieces qs)

/-- The last component, if it is a name. -/
def fileName? (p : String) : Option String :=
  match trimIdle (pieces p) with
  | [] => none
  | ps => match ps.getLast? with
    | some n => if isIdle n || n == ".." then none else some n
    | none => none

/-- A file name without its last dot and what follows. A name whose only dot is its first character
has no extension. -/
def stem (name : String) : String :=
  match name.toList.reverse.span (· ≠ '.') with
  | (_, _ :: rest) => if rest.isEmpty then name else String.ofList rest.reverse
  | (_, []) => name

/-- The path with its last name's extension replaced by `ext`. -/
def withExtension (p ext : String) : String :=
  match fileName? p with
  | none => p
  | some n => ofPieces ((trimIdle (pieces p)).dropLast ++ [stem n ++ "." ++ ext])

end BenchCheckout.Path

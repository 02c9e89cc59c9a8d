/-!
# Paths as utilities take them apart

The last component of a path keeps the slashes behind it. Octet texts, as everywhere in utilities.
-/

namespace BenchCheckout.Utility.Names

def isSlash (c : Char) : Bool := c == '/'

def endsInSlash (path : String) : Bool := path.toList.getLast?.any isSlash

/-- The path without slashes at its end; the root stays. -/
def withoutSlashes (path : String) : String :=
  let cs := path.toList
  let kept := (cs.reverse.dropWhile isSlash).reverse
  if kept.isEmpty ∧ cs ≠ [] then "/" else String.ofList kept

/-- The characters in front of the last component. -/
def beforeLast (path : String) : List Char :=
  let reversed := path.toList.reverse
  let slashes := reversed.takeWhile isSlash
  let rest := reversed.dropWhile isSlash
  if rest.isEmpty then slashes else (rest.dropWhile (!isSlash ·)).reverse

/-- The last component, with the slashes behind it. -/
def last (path : String) : String :=
  String.ofList (path.toList.drop (beforeLast path).length)

/-- The last component without slashes behind it. -/
def base (path : String) : String := withoutSlashes (last path)

/-- The directory that a path lies in, as a text. -/
def dir (path : String) : String :=
  let before := beforeLast path
  if before.isEmpty then "."
  else withoutSlashes (String.ofList before)

/-- A path below a directory. -/
def concat (dir path : String) : String :=
  let kept := String.ofList (beforeLast dir) ++ base dir
  if last dir = "" then
    if path.startsWith "/" then dir ++ "." ++ path else dir ++ path
  else if endsInSlash kept ∨ path.startsWith "/" then kept ++ path
  else kept ++ "/" ++ path

def isDots (name : String) : Bool := name == "." || name == ".."

/-- The paths of the directories above the last component of a path, the outermost one first. -/
def above (path : String) : List String :=
  go [] path.toList
where
  /-- `before`: what has been passed, in reverse. -/
  go (before : List Char) : List Char → List String
    | [] => []
    | c :: d :: cs =>
      let found := isSlash d && !isSlash c && cs.any (!isSlash ·)
      let here := if found then [String.ofList (c :: before).reverse] else []
      here ++ go (c :: before) (d :: cs)
    | [_] => []

end BenchCheckout.Utility.Names

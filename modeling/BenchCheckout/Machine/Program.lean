import BenchCheckout.Machine.Scene
import BenchCheckout.Path

/-!
# Program files

What a file is when it is started: the shell, a utility, a script that names its interpreter, or
nothing that can be started. `Scene.program` follows a script to the program that runs it.
-/

namespace BenchCheckout

/-- What is started by a path: a program, the name that it is started under, and its arguments. -/
structure Program where
  /-- The name of a utility; the shell has none. -/
  utility : Option String
  name : String
  args : List String
deriving DecidableEq, Repr

/-- What the content of a file says about it. -/
inductive Image where
  | shell
  | utility (name : String)
  /-- A script whose first line names a program and at most one argument. -/
  | script (interpreter : String) (argument : Option String)
  | unknown
deriving DecidableEq, Repr

namespace Image

/-- What the files of utilities start with. -/
def magic : String := "\x7fELF"

/-- The content of a utility's file. -/
def bytesOf (name : String) : ByteArray := Octets.toBytes (magic ++ name)

/-- The names of the shell's file. -/
def shellNames : List String := ["sh", "dash"]

/-! ## First lines -/

/-- The bytes of a file that are looked at before it is started. -/
def headSize : Nat := 256

def isBlank (c : Char) : Bool := c == ' ' || c == '\t'

def isEnd (c : Char) : Bool := isBlank c || c == '\x00'

def trimEnd (s : List Char) : List Char := (s.reverse.dropWhile isBlank).reverse

/-- A program, and an argument behind it, in a line without its end. -/
def interpreterIn (line : List Char) : Image :=
  let line := line.dropWhile isBlank
  let program := line.takeWhile (!isEnd ·)
  let rest := line.dropWhile (!isEnd ·)
  let argument := match rest with
    | c :: rest => if isBlank c then (rest.dropWhile isBlank).takeWhile (· ≠ '\x00') else []
    | [] => []
  .script (String.ofList program) (if argument.isEmpty then none else some (String.ofList argument))

/-- What the first bytes of a file, behind the mark of a script, ask for. A line without an end has
to have one of its program's name. -/
def ofFirstLine (isWhole : Bool) (s : List Char) : Image :=
  let line := s.takeWhile fun c => c ≠ '\n' && c ≠ '\x00'
  if s.drop line.length |>.head? |>.any (· = '\n') then
    let line := trimEnd line
    if (line.dropWhile isBlank).isEmpty then .unknown else interpreterIn line
  else
    let padded := if isWhole then s ++ ['\x00'] else s.take (headSize - 3)
    let name := padded.dropWhile isBlank
    if name.isEmpty ∨ !name.any isEnd then .unknown
    else interpreterIn (if isWhole then s else trimEnd padded)

def ofBytes (bytes : ByteArray) : Image :=
  let head := (Octets.ofBytes (bytes.extract 0 headSize)).toList
  if magic.toList.isPrefixOf head then
    let name := String.ofList (head.drop magic.length)
    if name ∈ shellNames then .shell
    else if name.isEmpty then .unknown
    else .utility name
  else match head with
    | '#' :: '!' :: rest => ofFirstLine (bytes.size < headSize) rest
    | _ => .unknown

end Image

/-- Scripts that are run by scripts, at most so many. -/
def scriptLimit : Nat := 5

/-- The greatest size of an argument, with the zero behind it. -/
def argumentLimit : Nat := 131072

/-- The greatest size of all arguments together, with a pointer to each. -/
def argumentsLimit : Nat := 2097152

/-- Arguments that no program can be given. -/
def areTooLong (args : List String) : Bool :=
  args.any (fun a => argumentLimit < a.length + 1) ||
    argumentsLimit < args.foldl (fun size a => size + a.length + 9) 0

namespace Scene

/-- The program file at a path, and what it is. -/
def image (s : Scene) (path : String) : Except Fault Image := do
  match ← s.find path with
  | (l, .file bytes true _) => if l = Machine.nullDevice then .error .denied else .ok (.ofBytes bytes)
  | _ => .error .denied

/-- Follow a script to its interpreter; so many scripts may still come. -/
def programFrom (s : Scene) : Nat → String → String → List String → Except Fault Program
  | scripts, path, name, args => do
    match ← (if path = "" then .error .denied else s.image path) with
    | .shell => .ok ⟨none, name, args⟩
    | .utility utility => .ok ⟨some utility, name, args⟩
    | .unknown => .error .notExecutableFormat
    | .script interpreter argument =>
      match scripts with
      | 0 => .error .tooManyLinks
      | n + 1 => s.programFrom n interpreter interpreter (argument.toList ++ path :: args)

/-- The program that is started by a path, a name for it and its arguments. -/
def program (s : Scene) (path name : String) (args : List String) : Except Fault Program :=
  if areTooLong (name :: args) then .error .tooManyArguments
  else s.programFrom scriptLimit path name args

end Scene

/-! ## The search path -/

namespace SearchPath

/-- The directories of a search path. -/
def dirs (searchPath : String) : List String := (Path.cut ':' searchPath.toList).map String.ofList

/-- The path of a program in a directory of the search path. -/
def inside (dir program : String) : String := if dir = "" then program else dir ++ "/" ++ program

end SearchPath

end BenchCheckout

import BenchCheckout.Machine.Basic

/-!
# Files as a process sees them

A `Scene` is a file tree with a working directory. Its questions take paths that are octet texts,
and its answers give names as octet texts.
-/

namespace BenchCheckout

structure Scene where
  files : FileTree
  cwd : Location

namespace Scene

def find (s : Scene) (path : String) : Except Fault (Location × Entry) :=
  s.files.find s.cwd (Octets.toText path)

def locate (s : Scene) (path : String) : Except Fault Location :=
  s.files.locate s.cwd (Octets.toText path)

/-- What is at a path; a link there is not followed. -/
def findLink (s : Scene) (path : String) : Except Fault Entry :=
  s.files.findLink s.cwd (Octets.toText path)

def exists? (s : Scene) (path : String) : Bool := (s.find path).toBool

def isFile (s : Scene) (path : String) : Bool :=
  match s.find path with
  | .ok (l, e) => e.isFile && l != Machine.nullDevice
  | .error _ => false

def isDirectory (s : Scene) (path : String) : Bool :=
  match s.find path with
  | .ok (_, e) => e.isDirectory
  | .error _ => false

def isLink (s : Scene) (path : String) : Bool :=
  match s.findLink path with
  | .ok (.link _) => true
  | _ => false

def isDevice (s : Scene) (path : String) : Bool :=
  match s.find path with
  | .ok (l, _) => l == Machine.nullDevice
  | .error _ => false

def isExecutable (s : Scene) (path : String) : Bool :=
  match s.find path with
  | .ok (_, .file _ executable _) => executable
  | .ok (_, .directory) => true
  | _ => false

/-- The names in a directory, in the order of their bytes. -/
def list (s : Scene) (path : String) : Except Fault (List String) :=
  (s.files.list s.cwd (Octets.toText path)).map (·.map Octets.ofText)

/-- What is at a path, and where; a link there is only followed if a slash is behind it. -/
def findEntry (s : Scene) (path : String) : Except Fault (Location × Entry) := do
  let text := Octets.toText path
  let p ← s.files.spot s.cwd text
  if IsName p.last ∧ p.slash = false then
    match ← s.files.lookUp p with
    | some e => .ok (p.location, e)
    | none => .error .noEntry
  else s.files.find s.cwd text

/-- The location of the directory entry that a path names; a link there is not followed. -/
def entryLocation (s : Scene) (path : String) : Except Fault Location := do
  let p ← s.files.spot s.cwd (Octets.toText path)
  if IsName p.last then .ok p.location else s.locate path

/-- The content of a file. -/
def read (s : Scene) (path : String) : Except Fault String :=
  (s.files.read s.cwd (Octets.toText path)).map Octets.ofBytes

end Scene

end BenchCheckout

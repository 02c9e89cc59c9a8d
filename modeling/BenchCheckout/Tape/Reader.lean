import BenchCheckout.Tape.Header

/-!
# Reading tape archives

`next` reads the next member of an archive. A member can have headers in front of its own that are
about long names, or hold attributes, which are lines of a length, a keyword and a value.
-/

namespace BenchCheckout.Tape

/-- A member: its header, and the block that its content starts with. -/
structure Member where
  header : Header
  content : Nat

/-- What is to be said about an archive; with `isFault` it is not as it should be. -/
structure Remark where
  text : String
  isFault : Bool

/-- What headers in front of a member's own say about it. -/
structure Extras where
  name : Option String
  link : Option String
  /-- Attributes, the last one first. -/
  attributes : List (String × String)

/-- What is read where a member is expected. -/
inductive Found where
  | member (m : Member)
  | zeros (block : Nat)
  | other (block : Nat)
  | ended

structure Reading where
  found : Found
  remarks : List Remark
  /-- Attributes of all members from here on, the last one first. -/
  shared : List (String × String)

/-- The whole blocks of an archive. -/
def blockCount (data : ByteArray) : Nat := data.size / blockSize

def blockAt (data : ByteArray) (n : Nat) : ByteArray :=
  data.extract (n * blockSize) ((n + 1) * blockSize)

def blocksFor (size : Nat) : Nat := (size + blockSize - 1) / blockSize

/-- The content from a block on, as far as there are blocks of it. -/
def contentAt (data : ByteArray) (block size : Nat) : ByteArray :=
  let start := block * blockSize
  data.extract start (min (start + size) (blockCount data * blockSize))

/-! ## Attributes -/

/-- A line at the start of a text: the keyword, the value and the text behind it. -/
def lineAt (s : List Char) : Except String (String × String × List Char) :=
  let s' := s.dropWhile fun c => c == ' ' || c == '\t'
  let digits := s'.takeWhile Char.isDigit
  if digits.isEmpty then .error "Malformed extended header: missing length"
  else
    let n := digits.foldl (fun n d => 10 * n + (d.toNat - '0'.toNat)) 0
    let lead := s.length - s'.length
    if s.length < lead + n then
      .error ("Extended header length " ++ String.ofList digits ++ " is out of range")
    else
      let line := s'.take n
      let behind := (line.drop digits.length).dropWhile fun c => c == ' ' || c == '\t'
      if line.drop digits.length |>.head? |>.any (fun c => c == ' ' || c == '\t') then
        let keyword := behind.takeWhile (· ≠ '=')
        if keyword.length = behind.length then
          .error "Malformed extended header: missing equal sign"
        else if line.getLast? ≠ some '\n' then
          .error "Malformed extended header: missing newline"
        else
          .ok (String.ofList keyword, String.ofList ((behind.drop (keyword.length + 1)).dropLast),
            s'.drop n)
      else .error "Malformed extended header: missing blank after length"

/-- The attributes in a text, the last one first, up to one that is malformed. -/
def attributesIn : Nat → List Char → List (String × String) → List (String × String) × List Remark
  | 0, _, before => (before, [])
  | left + 1, s, before =>
    if s.isEmpty ∨ s.head? = some '\x00' then (before, [])
    else
      match lineAt s with
      | .error text => (before, [⟨text, true⟩])
      | .ok (keyword, value, rest) => attributesIn left rest ((keyword, value) :: before)

/-- Attributes that mean something, even where they change nothing here. -/
def knownKeywords : List String :=
  ["atime", "comment", "charset", "ctime", "gid", "gname", "linkpath", "mtime", "path", "size",
    "uid", "uname"]

def isKnown (keyword : String) : Bool :=
  keyword ∈ knownKeywords || keyword.startsWith "GNU." || keyword.startsWith "SCHILY.xattr." ||
    keyword.startsWith "SCHILY.acl." || keyword.startsWith "RHT."

def valueOf (attributes : List (String × String)) (keyword : String) : Option String :=
  (attributes.find? (·.1 == keyword)).map (·.2)

def natOf (s : String) : Option Nat :=
  let ds := s.toList
  if ds ≠ [] ∧ ds.all Char.isDigit then
    some (ds.foldl (fun n d => 10 * n + (d.toNat - '0'.toNat)) 0)
  else none

/-- The header with what attributes say. -/
def Header.withAttributes (h : Header) (attributes : List (String × String)) : Header :=
  let filled (keyword : String) : Option String :=
    (valueOf attributes keyword).filter (· ≠ "")
  { h with
    name := (filled "path").getD h.name
    link := (filled "linkpath").getD h.link
    size := ((valueOf attributes "size").bind natOf).getD h.size
    owner := (filled "uname").getD h.owner
    group := (filled "gname").getD h.group
    time := ((valueOf attributes "mtime").bind fun s =>
      natOf (String.ofList (s.toList.takeWhile (· ≠ '.')))).getD h.time }

/-! ## Members -/

/-- The member that a header and what stands in front of it make. -/
def memberOf (h : Header) (block : Nat) (extras : Extras) (shared : List (String × String)) :
    Member × List Remark :=
  let h := { h with name := extras.name.getD h.name, link := extras.link.getD h.link }
  let unknown := (extras.attributes.reverse.filter fun (k, _) => !isKnown k).map fun (k, _) =>
    ⟨"Ignoring unknown extended header keyword '" ++ k ++ "'", false⟩
  (⟨h.withAttributes (extras.attributes ++ shared), block + 1⟩, unknown)

/-- Read from a block on. At most so many headers are to come. -/
def nextFrom (data : ByteArray) (shared : List (String × String)) :
    Nat → Nat → Extras → Reading
  | 0, _, _ => ⟨.ended, [], shared⟩
  | left + 1, n, extras =>
    if blockCount data ≤ n then ⟨.ended, [], shared⟩
    else
      match readBlock (blockAt data n) with
      | .zeros => ⟨.zeros n, [], shared⟩
      | .other complaint => ⟨.other n, complaint.toList.map (⟨·, true⟩), shared⟩
      | .header h =>
        let content := contentAt data (n + 1) h.size
        let behind := n + 1 + blocksFor h.size
        let text := octets (content.data.toList.takeWhile (· ≠ 0))
        if h.kind = 'L' then
          nextFrom data shared left behind { extras with name := some text }
        else if h.kind = 'K' then
          nextFrom data shared left behind { extras with link := some text }
        else if h.kind = 'x' ∨ h.kind = 'X' ∨ h.kind = 'g' then
          let chars := (octets content.data.toList).toList
          let (attributes, remarks) := attributesIn (chars.length + 1) chars []
          let reading :=
            if h.kind = 'g' then nextFrom data (attributes ++ shared) left behind extras
            else nextFrom data shared left behind { extras with attributes }
          { reading with remarks := remarks ++ reading.remarks }
        else
          let (m, remarks) := memberOf h n extras shared
          ⟨.member m, remarks, shared⟩

/-- Read the next member, at a block. -/
def next (data : ByteArray) (shared : List (String × String)) (n : Nat) : Reading :=
  nextFrom data shared (blockCount data + 1) n ⟨none, none, []⟩

end BenchCheckout.Tape

import BenchCheckout.Text.Octets

/-!
# Headers of tape archives

A tape archive is a row of blocks of 512 bytes. A member is a header, which is one block, and its
content in as many blocks as it needs. Names are octet texts.
-/

namespace BenchCheckout.Tape

def blockSize : Nat := 512

/-- What a header says about a member. -/
structure Header where
  name : String
  link : String
  kind : Char
  mode : Nat
  size : Nat
  /-- In seconds. -/
  time : Nat
  owner : String
  group : String
deriving Repr

/-- What a block can be where a header is expected. -/
inductive Block where
  | header (h : Header)
  | zeros
  /-- No header; what is to be said about it. -/
  | other (complaint : Option String)

/-! ## Numbers -/

/-- Where a field lies, and what it is called in complaints. -/
structure Field where
  start : Nat
  width : Nat
  kind : String

def Field.bytes (f : Field) (block : ByteArray) : List UInt8 :=
  (block.extract f.start (f.start + f.width)).data.toList

def isOctal (b : UInt8) : Bool := 48 ≤ b && b < 56

def isSpace (b : UInt8) : Bool := b == 32 || (9 ≤ b && b ≤ 13)

def octets (bs : List UInt8) : String := String.ofList (bs.map fun b => Char.ofNat b.toNat)

/-- The greatest number that a field can have. -/
def numberLimit : Nat := 0x8000000000000000

/-- A number in octal digits, or in bytes behind a mark. -/
def Field.number (f : Field) (block : ByteArray) : Except String Nat :=
  let bs := f.bytes block
  let bs := match bs with
    | 0 :: rest => rest
    | bs => bs
  let digits := bs.dropWhile isSpace
  let strange : Except String Nat :=
    .error ("Archive contains '" ++ octets ((f.bytes block).takeWhile (· ≠ 0)) ++
      "' where numeric " ++ f.kind ++ " value expected")
  let tooGreat (shown : String) : Except String Nat :=
    .error ("Archive value " ++ shown ++ " is out of " ++ f.kind ++ " range 0.." ++
      (numberLimit - 1).repr)
  match digits with
  | [] => .error ("Blanks in header where numeric " ++ f.kind ++ " value expected")
  | 128 :: rest =>
    let n := rest.foldl (fun n b => 256 * n + b.toNat) 0
    if n < numberLimit then .ok n else tooGreat n.repr
  | 255 :: rest =>
    let n := rest.foldl (fun n b => 256 * n + (255 - b.toNat)) 0
    tooGreat ("-" ++ (n + 1).repr)
  | digits =>
    let shown := digits.takeWhile isOctal
    match digits.drop shown.length with
    | [] => .ok (shown.foldl (fun n b => 8 * n + (b.toNat - 48)) 0)
    | b :: _ =>
      if b = 0 ∨ isSpace b then .ok (shown.foldl (fun n b => 8 * n + (b.toNat - 48)) 0)
      else strange

/-! ## Reading -/

/-- The text of a field, up to a zero. -/
def textAt (block : ByteArray) (start width : Nat) : String :=
  octets (((block.extract start (start + width)).data.toList).takeWhile (· ≠ 0))

/-- The sum of all bytes, where those of the checksum count as spaces. With `signed`, bytes above 127
are negative. -/
def sumOf (signed : Bool) (block : ByteArray) : Int :=
  let value (b : UInt8) : Int :=
    if signed && 127 < b then (b.toNat : Int) - 256 else b.toNat
  let sum (bs : ByteArray) : Int := bs.data.foldl (fun n b => n + value b) 0
  sum (block.extract 0 148) + 8 * 32 + sum (block.extract 156 blockSize)

def sizeField : Field := ⟨124, 12, "off_t"⟩

/-- The name of a member, behind the directory that one kind of archive has in a field of its own. -/
def nameOf (block : ByteArray) : String :=
  let front := textAt block 345 155
  let name := textAt block 0 100
  if front ≠ "" ∧ octets ((block.extract 257 263).data.toList) = "ustar\x00" then
    front ++ "/" ++ name
  else name

/-- The name of an owner or a group, or else its number. -/
def ownerOf (block : ByteArray) (name : Nat) (number : Field) : String :=
  match textAt block name 32 with
  | "" => ((number.number block).toOption.getD 0).repr
  | text => text

/-- Hard links have no content, whatever their size is. -/
def isHardLink (kind : Char) : Bool := kind == '1'

def readBlock (block : ByteArray) : Block :=
  if block.data.all (· == 0) then .zeros
  else
    let sum := (Field.mk 148 8 "").number block
    let isRight : Bool := match sum with
      | .ok n => sumOf false block == n || sumOf true block == n
      | .error _ => false
    if !isRight then .other none
    else
      let kind := Char.ofNat (block.data[156]?.getD 0).toNat
      let size := if isHardLink kind then .ok 0 else sizeField.number block
      match size with
      | .error complaint => .other (some complaint)
      | .ok size =>
        .header
          { name := nameOf block
            link := textAt block 157 100
            kind
            mode := ((Field.mk 100 8 "mode_t").number block).toOption.getD 0
            size
            time := ((Field.mk 136 12 "time_t").number block).toOption.getD 0
            owner := ownerOf block 265 ⟨108, 8, "uid_t"⟩
            group := ownerOf block 297 ⟨116, 8, "gid_t"⟩ }

/-! ## Writing -/

def zeros (n : Nat) : List UInt8 := List.replicate n 0

def bytesOf (s : String) : List UInt8 := s.toList.map fun c => UInt8.ofNat c.toNat

/-- A text in a field, cut off where it does not fit. -/
def textField (width : Nat) (s : String) : List UInt8 :=
  let bs := (bytesOf s).take width
  bs ++ zeros (width - bs.length)

def octalField (width n : Nat) : List UInt8 :=
  let ds := bytesOf (String.ofList (Nat.toDigits 8 n))
  List.replicate (width - 1 - ds.length) 48 ++ ds ++ [0]

def ofList (bytes : List UInt8) : ByteArray := ⟨bytes.toArray⟩

/-- A header with its checksum. -/
def Header.bytes (h : Header) : ByteArray :=
  let front := textField 100 h.name ++ octalField 8 h.mode ++ octalField 8 0 ++ octalField 8 0 ++
    octalField 12 h.size ++ octalField 12 h.time
  let back := UInt8.ofNat h.kind.toNat :: textField 100 h.link ++ bytesOf "ustar  \x00" ++
    textField 32 h.owner ++ textField 32 h.group ++ zeros 183
  let sum := sumOf false (ofList (front ++ zeros 8 ++ back))
  ofList (front ++ octalField 7 sum.toNat ++ [32] ++ back)

/-- Content, filled up to whole blocks. -/
def padded (content : ByteArray) : ByteArray :=
  content ++ ofList (zeros ((blockSize - content.size % blockSize) % blockSize))

/-- What stands in front of a member whose name, or the name that it links to, is too long for its
header. -/
def longText (kind : Char) (text : String) : ByteArray :=
  if text.length ≤ 100 then .empty
  else
    let h : Header := ⟨"././@LongLink", "", kind, 0, text.length + 1, 0, "root", "root"⟩
    h.bytes ++ padded (ofList (bytesOf text ++ [0]))

/-- A member of an archive. -/
def memberBytes (h : Header) (content : ByteArray) : ByteArray :=
  longText 'K' h.link ++ longText 'L' h.name ++ h.bytes ++ padded content

/-- An archive is a row of whole records. -/
def recordSize : Nat := 20 * blockSize

/-- Members with the end of an archive behind them. -/
def archiveOf (members : ByteArray) : ByteArray :=
  let whole := members ++ ofList (zeros (2 * blockSize))
  whole ++ ofList (zeros ((recordSize - whole.size % recordSize) % recordSize))

end BenchCheckout.Tape

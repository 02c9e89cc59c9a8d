import BenchCheckout.Gzip.Inflate
import BenchCheckout.Text.Octets

/-!
# Compressed streams

A compressed stream is a row of members: a header, deflated data, a checksum and a length. `unpack`
gives what a stream holds, and what is wrong with it. `pack` makes a stream that holds some bytes.
-/

namespace BenchCheckout.Gzip

inductive Fault where
  | notCompressed
  | short
  | invalid
  | checksum
  | length
  | checksumAndLength
  | method (n : Nat)
  | encrypted
  | flags (n : Nat)
  | headerChecksum (given computed : Nat)
  /-- What was held was read, but something else is behind it. -/
  | trailing
deriving DecidableEq, Repr

namespace Fault

/-- A number of two bytes in hexadecimal digits. -/
def hex (n : Nat) : String :=
  String.ofList ([n / 4096, n / 256, n / 16, n].map fun k => Nat.digitChar (k % 16))

/-- What is said of data that are not what they should be. -/
def damage (what : String) : String := "\ngzip: stdin: invalid compressed data--" ++ what

/-- What the program that unpacks says. -/
def message : Fault → String
  | notCompressed => "\ngzip: stdin: not in gzip format"
  | short => "\ngzip: stdin: unexpected end of file"
  | invalid => damage "format violated"
  | checksum => damage "crc error"
  | length => damage "length error"
  | checksumAndLength => damage "crc error" ++ "\n" ++ damage "length error"
  | method n => "gzip: stdin: unknown method " ++ n.repr ++ " -- not supported"
  | encrypted => "gzip: stdin is encrypted -- not supported"
  | flags n =>
    "gzip: stdin has flags 0x" ++ String.ofList (Nat.toDigits 16 n) ++ " -- not supported"
  | headerChecksum given computed =>
    "gzip: stdin: header checksum 0x" ++ hex given ++ " != computed checksum 0x" ++ hex computed
  | trailing => "\ngzip: stdin: decompression OK, trailing garbage ignored"

/-- The status of a program that met the fault. -/
def status : Fault → Nat
  | trailing => 2
  | _ => 1

end Fault

/-! ## Checksums -/

/-- The checksum polynomial, its bits turned. -/
def polynomial : UInt32 := 0xedb88320

def checksumStep (sum : UInt32) (b : UInt8) : UInt32 :=
  (List.range 8).foldl (fun s _ => if s &&& 1 = 1 then (s >>> 1) ^^^ polynomial else s >>> 1)
    (sum ^^^ b.toUInt32)

def checksum (bytes : ByteArray) : UInt32 :=
  bytes.data.foldl checksumStep 0xffffffff ^^^ 0xffffffff

/-! ## Reading -/

def byte? (data : ByteArray) (i : Nat) : Option Nat := data.data[i]?.map (·.toNat)

/-- A number of so many bytes, the last one first. -/
def number? (data : ByteArray) (i : Nat) : Nat → Option Nat
  | 0 => some 0
  | n + 1 => do
    let b ← byte? data i
    let rest ← number? data (i + 1) n
    some (b + 256 * rest)

/-- The index behind the next zero byte. -/
def behindZero (data : ByteArray) : Nat → Nat → Option Nat
  | 0, _ => none
  | n + 1, i => do
    let b ← byte? data i
    if b = 0 then some (i + 1) else behindZero data n (i + 1)

def isSet (flags bit : Nat) : Bool := flags / bit % 2 == 1

/-- The index behind a member's header. -/
def header (data : ByteArray) (i : Nat) : Except Fault Nat := do
  let orShort {α : Type} (o : Option α) : Except Fault α := o.elim (.error .short) .ok
  let a ← orShort (byte? data i)
  let b ← orShort (byte? data (i + 1))
  if a ≠ 0x1f ∨ (b ≠ 0x8b ∧ b ≠ 0x9e) then .error .notCompressed
  else
    let method ← orShort (byte? data (i + 2))
    if method ≠ 8 then .error (.method method)
    else
      let flags ← orShort (byte? data (i + 3))
      if isSet flags 32 then .error .encrypted
      else if 64 ≤ flags then .error (.flags flags)
      else
        let _ ← orShort (number? data (i + 4) 6)
        let j := i + 10
        let j ←
          if isSet flags 4 then do
            let n ← orShort (number? data j 2)
            let _ ← if n = 0 then pure 0 else orShort (byte? data (j + 1 + n))
            pure (j + 2 + n)
          else pure j
        let limit := data.size + 1
        let j ← if isSet flags 8 then orShort (behindZero data limit j) else pure j
        let j ← if isSet flags 16 then orShort (behindZero data limit j) else pure j
        if isSet flags 2 then do
          let given ← orShort (number? data j 2)
          let computed := (checksum (data.extract i j)).toNat % 65536
          if given = computed then pure (j + 2) else .error (.headerChecksum given computed)
        else pure j

/-- Bytes that are written before a flaw in the data is met are those that fill a window. -/
def windowSize : Nat := 32768

/-- Only zeros come from an index on. -/
def isPadding (data : ByteArray) (i : Nat) : Bool :=
  (data.extract i data.size).data.all (· == 0)

/-- The members from an index on, behind what was held before. At most so many of them. -/
def members (data : ByteArray) : Nat → Nat → ByteArray → ByteArray × Option Fault
  | 0, _, output => (output, some .invalid)
  | n + 1, i, output =>
    match header data i with
    | .error fault =>
      if i = 0 then (output, some fault)
      else if isPadding data i then (output, none)
      else if byte? data i = some 0 ∨ fault = .notCompressed then (output, some .trailing)
      else (output, some fault)
    | .ok start =>
      let r := inflate data start
      match r.flaw with
      | some .short => (output ++ r.output, some .short)
      | some .invalid =>
        let kept := r.output.size / windowSize * windowSize
        (output ++ r.output.extract 0 kept, some .invalid)
      | none =>
        let output := output ++ r.output
        let behind := (r.position + 7) / 8
        match number? data behind 4, number? data (behind + 4) 4 with
        | some sum, some size =>
          let isSum : Bool := sum = (checksum r.output).toNat
          let isSize : Bool := size = r.output.size % 0x100000000
          if !isSum && !isSize then (output, some .checksumAndLength)
          else if !isSum then (output, some .checksum)
          else if !isSize then (output, some .length)
          else if behind + 8 = data.size then (output, none)
          else members data n (behind + 8) output
        | _, _ => (output, some .short)

/-- What a stream holds as far as it can be read, and what is wrong with it. -/
def unpack (data : ByteArray) : ByteArray × Option Fault := members data (data.size + 1) 0 .empty

/-! ## Writing -/

/-- A number in so many bytes, the last one first. -/
def littleBytes : Nat → Nat → List UInt8
  | 0, _ => []
  | n + 1, k => UInt8.ofNat k :: littleBytes n (k / 256)

def ofList (bytes : List UInt8) : ByteArray := ⟨bytes.toArray⟩

/-- Bytes in blocks that hold them as they stand. So many bytes may be left. -/
def storedBlocks : Nat → ByteArray → ByteArray
  | 0, _ => .empty
  | left + 1, bytes =>
    let n := min bytes.size 65535
    let isLast := n = bytes.size
    let front := ofList ((if isLast then 1 else 0) :: littleBytes 2 n ++ littleBytes 2 (65535 - n))
    let block := front ++ bytes.extract 0 n
    if isLast then block else block ++ storedBlocks left (bytes.extract n bytes.size)

/-- A stream that holds bytes. -/
def pack (bytes : ByteArray) : ByteArray :=
  ofList [0x1f, 0x8b, 8, 0, 0, 0, 0, 0, 0, 3] ++ storedBlocks (bytes.size + 1) bytes ++
    ofList (littleBytes 4 (checksum bytes).toNat ++ littleBytes 4 bytes.size)

end BenchCheckout.Gzip

import BenchCheckout.Gzip.Stream
import BenchCheckout.Tape.Reader
import BenchCheckout.Utility.Tar.Work

/-!
# Where archives come from and go to

`Source.open` reads an archive. One that is compressed is unpacked by another process, whose
complaints come first and whose status is looked at when all has been read.
-/

namespace BenchCheckout.Utility.Tar

structure Source where
  data : ByteArray
  /-- The status of the process that unpacked the data, if it is none of success. -/
  status : Option Nat

namespace Source

open Work

/-! ## Signs of compression -/

/-- How a compressed file starts, the program for it, and the option that asks for it. -/
structure Mark where
  bytes : List UInt8
  compression : Compression
  letters : String

def marks : List Mark :=
  [⟨[0x1f, 0x9d], .gzip, "-Z"⟩, ⟨[0x1f, 0x8b], .gzip, "-z"⟩,
    ⟨[0x42, 0x5a, 0x68], .absent "lbzip2", "-j"⟩, ⟨[0x4c, 0x5a, 0x49, 0x50], .absent "lzip", "--lzip"⟩,
    ⟨[0xff, 0x4c, 0x5a, 0x4d, 0x41, 0], .absent "xz", "--lzma"⟩, ⟨[0x5d, 0, 0], .absent "xz", "--lzma"⟩,
    ⟨[0x89, 0x4c, 0x5a, 0x4f], .absent "lzop", "--lzop"⟩,
    ⟨[0xfd, 0x37, 0x7a, 0x58, 0x5a, 0], .absent "xz", "-J"⟩,
    ⟨[0x28, 0xb5, 0x2f, 0xfd], .absent "zstd", "--zstd"⟩]

/-- The mark that data starts with. What is missing of a block counts as zeros. -/
def mark? (data : ByteArray) : Option Mark :=
  let front := (data.extract 0 8).data.toList ++ Tape.zeros 8
  marks.find? fun m => m.bytes.isPrefixOf front

/-- The program that the end of a name asks for. -/
def endings : List (String × Compression) :=
  [("gz", .gzip), ("tgz", .gzip), ("taz", .gzip), ("Z", .absent "compress"),
    ("taZ", .absent "compress"), ("bz2", .absent "bzip2"), ("tbz", .absent "bzip2"),
    ("tbz2", .absent "bzip2"), ("tz2", .absent "bzip2"), ("lz", .absent "lzip"),
    ("lzma", .absent "xz"), ("tlz", .absent "xz"), ("lzo", .absent "lzop"), ("xz", .absent "xz"),
    ("txz", .absent "xz"), ("zst", .absent "zstd"), ("tzst", .absent "zstd")]

def ending? (path : String) : Option Compression :=
  let cs := path.toList.reverse
  let last := cs.takeWhile (· ≠ '.')
  if last.length = cs.length then none
  else (endings.find? (·.1 == String.ofList last.reverse)).map (·.2)

/-! ## Reading -/

/-- The first block is a header, as far as the sign that headers have and the checksum tell. -/
def startsWithHeader (data : ByteArray) : Bool :=
  let block := Tape.blockAt data 0
  let sign := Tape.octets ((block.extract 257 263).data.toList)
  Tape.blockSize ≤ data.size && (sign == "ustar\x00" || sign == "ustar ") &&
    (match Tape.readBlock block with
      | .other none | .zeros => false
      | _ => true)

/-- The message of the process that unpacks. -/
def unpackFault (fault : Gzip.Fault) : Work Unit :=
  Step.printError (fault.message ++ "\n")

/-- Data as another process gives it, and the status of that process. -/
def unpacked (helper : Helper) (compression : Compression) (data : ByteArray) : Work Source := do
  match compression with
  | .absent program => do
    helperFailed helper [program ++ ": Cannot exec: No such file or directory"]
    childEnded 2
  | .gzip =>
    let (data, fault) := Gzip.unpack data
    match fault with
    | none => pure ⟨data, none⟩
    | some fault => do
      unpackFault fault
      pure ⟨data, some fault.status⟩

/-- What is said about an archive that cannot be read. -/
def readingTexts (path : String) (fault : Fault) : List String :=
  [shown path ++ ": Cannot read: " ++ fault.summary, "At beginning of tape, quitting now"]

/-- The helper that was to hand the archive on to the one that unpacks it has failed. -/
def unpackedNothing (compression : Compression) (texts : List String) (status : Nat) :
    Work Source := do
  helperFailed .child texts
  let s ← unpacked .grandchild compression .empty
  pure { s with status := some status }

def unreadable (path : String) (fault : Fault) : Option Compression → Work Source
  | some compression => unpackedNothing compression (readingTexts path fault) 2
  | none => do
    forEach complain (readingTexts path fault)
    throw .fatal

def readInput (r : Request) : Work Source := do
  match ← (Step.readDescriptor 0 : Step _) with
  | .error fault => unreadable "-" fault r.compression
  | .ok text =>
    let data := Octets.toBytes text
    match r.compression with
    | some compression => unpacked .grandchild compression data
    | none =>
      if startsWithHeader data then pure ⟨data, none⟩
      else match mark? data with
        | some m => fatal ("Archive is compressed. Use " ++ m.letters ++ " option")
        | none => do
          if data.size < Tape.blockSize then complain "This does not look like a tar archive"
          pure ⟨data, none⟩

/-- The name of another machine in front of a path on it. -/
def machineOf? (path : String) : Option String :=
  let cs := path.toList
  let front := cs.takeWhile (· ≠ ':')
  if front.length < cs.length ∧ front ≠ [] ∧ '/' ∉ front then some (String.ofList front) else none

/-- Another machine cannot be reached. -/
def unreachable (machine : String) : Option Compression → Work Source
  | some compression => do
    let d ← (get : Step Desk)
    Step.printError (d.name ++ " (child): " ++ text ++ "\n")
    let s ← unpacked .grandchild compression .empty
    pure { s with status := some 128 }
  | none => do
    Step.complainWith 128 text
    throw .silent
where
  text : String := "Cannot connect to " ++ machine ++ ": resolve failed"

def readFile (r : Request) (path : String) : Work Source := do
  match ← (Step.openFile path .forReading : Step _), r.compression with
  | .error fault, some _ => do
    helperFailed .child [shown path ++ ": Cannot open: " ++ fault.summary]
    childEnded 2
  | .error fault, none => do
    cannot path "open" fault
    throw .fatal
  | .ok index, compression? =>
    match ← (Step.readOpening index : Step _) with
    | .error fault => unreadable path fault compression?
    | .ok text =>
      let data := Octets.toBytes text
      match compression? with
      | some compression => unpacked .child compression data
      | none =>
        if startsWithHeader data then pure ⟨data, none⟩
        else match mark? data with
          | some m => unpacked .child m.compression data
          | none => do
            if data.size < Tape.blockSize then complain "This does not look like a tar archive"
            match ending? path with
            | some compression => unpacked .child compression data
            | none => pure ⟨data, none⟩

/-- Read the archive that is asked for. -/
def «open» (r : Request) : Work Source :=
  let path := r.archive
  if path = "-" then readInput r
  else match machineOf? path with
    | some machine =>
      if r.readsRemote then unreachable machine r.compression else readFile r path
    | none => readFile r path

/-- All has been read: look at how the process that unpacked the data ended. -/
def close (s : Source) : Work Unit :=
  match s.status with
  | some status => childEnded status
  | none => pure ()

end Source

end BenchCheckout.Utility.Tar

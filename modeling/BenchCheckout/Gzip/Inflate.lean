/-!
# Inflating

Deflated data is a row of blocks: of bytes as they stand, or of codes for bytes and for stretches
that are repeated. Bits are taken from each byte from its last one on. `inflate` gives all that was
inflated before the end or a flaw, and where that is.
-/

namespace BenchCheckout.Gzip

/-- Why nothing more can be inflated. -/
inductive Flaw where
  /-- The data ends too early. -/
  | short
  | invalid
deriving DecidableEq, Repr

/-! ## Bits -/

/-- The bit at a position, and the position behind it. -/
def bit (data : ByteArray) (p : Nat) : Except Flaw (Nat × Nat) :=
  match data.data[p / 8]? with
  | some b => .ok ((b.toNat >>> (p % 8)) % 2, p + 1)
  | none => .error .short

/-- The number that so many bits are, the last one first. -/
def bits (data : ByteArray) : Nat → Nat → Except Flaw (Nat × Nat)
  | 0, p => .ok (0, p)
  | n + 1, p => do
    let (b, p) ← bit data p
    let (rest, p) ← bits data n p
    .ok (b + 2 * rest, p)

/-! ## Codes -/

/-- The longest code. -/
def codeLimit : Nat := 15

/-- Codes by their lengths: how many there are of each length, and the symbols in the order of their
codes. -/
structure Code where
  counts : Array Nat
  symbols : Array Nat
  /-- How many bits are looked at to find a symbol; they have to be there even if its code is
  shorter. -/
  reach : Nat

/-- The code in which each symbol has a code of its length; a symbol of length zero has none. At most
`reach` bits are looked at at first, unless all codes are longer; one bit if there are no codes. -/
def Code.ofLengths (reach : Nat) (lengths : List Nat) : Code where
  reach :=
    let used := lengths.filter (· ≠ 0)
    if used.isEmpty then 1 else max (used.foldl min codeLimit) (min (used.foldl max 0) reach)
  counts := (Array.range (codeLimit + 1)).map fun n =>
    if n = 0 then 0 else lengths.countP (· == n)
  symbols :=
    let indexed := lengths.zipIdx
    ((List.range codeLimit).flatMap fun n =>
      indexed.filterMap fun (l, s) => if l = n + 1 then some s else none).toArray

/-- The part of all codes that is not taken, in codes of the greatest length; `none` if more than
all are taken. -/
def Code.room (c : Code) : Option Nat :=
  let taken := c.counts.toList.zipIdx.foldl (fun n c => n + (c.1 <<< (codeLimit - c.2))) 0
  if taken ≤ 1 <<< codeLimit then some ((1 <<< codeLimit) - taken) else none

/-- Every row of bits starts with a code. The only code may be one bit. -/
def Code.isComplete (c : Code) : Bool :=
  match c.room with
  | some 0 => true
  | some _ => c.symbols.size ≤ 1 && (c.counts.toList.drop 2).all (· == 0)
  | none => false

/-- The symbol whose code comes next. `first` and `index`: of the codes that are as long as
`value`. -/
def Code.next (c : Code) (data : ByteArray) :
    (left length value first index p : Nat) → Except Flaw (Nat × Nat)
  | 0, _, _, _, _, _ => .error .invalid
  | left + 1, length, value, first, index, p => do
    let (b, p) ← bit data p
    let value := value + b
    let count := c.counts[length]?.getD 0
    if value < first + count then
      match c.symbols[index + (value - first)]? with
      | some s => .ok (s, p)
      | none => .error .invalid
    else c.next data left (length + 1) (2 * value) (2 * (first + count)) (index + count) p

/-- The greatest length of the codes that start with so many bits as are looked at at first. -/
def Code.span (c : Code) (front : Nat) : Nat :=
  let step (state : Nat × Nat) (length : Nat) : Nat × Nat :=
    let (first, best) := state
    let count := c.counts[length]?.getD 0
    let unit := 1 <<< (length - c.reach)
    let isHere := c.reach < length ∧ first < (front + 1) * unit ∧ front * unit < first + count
    (2 * (first + count), if isHere then length else best)
  ((List.range codeLimit).foldl (fun state n => step state (n + 1)) (0, c.reach)).2

/-- The number that so many bits are, the first one first. -/
def front (data : ByteArray) : Nat → Nat → Nat → Nat
  | 0, _, value => value
  | n + 1, p, value => front data n (p + 1) (2 * value + ((bit data p).toOption.elim 0 (·.1)))

/-- The next symbol. The data is too short if it lacks a bit that is looked at. -/
def Code.symbol (c : Code) (data : ByteArray) (p : Nat) : Except Flaw (Nat × Nat) := do
  let left := 8 * data.size - p
  if left < c.reach then .error .short
  else
    let (s, q) ← c.next data codeLimit 1 0 0 0 p
    if q - p ≤ c.reach ∨ codeLimit ≤ left then .ok (s, q)
    else if left < c.span (front data c.reach p 0) then .error .short
    else .ok (s, q)

/-! ## Blocks -/

/-- What was inflated, the position behind it, and the flaw that was met. -/
structure Inflated where
  output : ByteArray
  position : Nat
  flaw : Option Flaw

/-- The least length or distance of each symbol, and how many bits are added to it. -/
def lengthOf (k : Nat) : Option (Nat × Nat) :=
  if k < 8 then some (k + 3, 0)
  else if k < 28 then
    let extra := (k - 4) / 4
    some (((4 + k % 4) <<< extra) + 3, extra)
  else if k = 28 then some (258, 0)
  else none

def distanceOf (k : Nat) : Option (Nat × Nat) :=
  if k < 4 then some (k + 1, 0)
  else if k < 30 then
    let extra := (k - 2) / 2
    some (((2 + k % 2) <<< extra) + 1, extra)
  else none

/-- Repeat the last bytes. What lies in front of all bytes is zero. -/
def repeated (output : ByteArray) (distance : Nat) : Nat → ByteArray
  | 0 => output
  | n + 1 =>
    let b := if distance ≤ output.size then output.data[output.size - distance]?.getD 0 else 0
    repeated (output.push b) distance n

/-- A stretch that is repeated: its length and its distance. -/
def stretch (distances : Code) (data : ByteArray) (symbol p : Nat) :
    Except Flaw (Nat × Nat × Nat) := do
  let some (least, extra) := lengthOf (symbol - 257) | .error .invalid
  let (more, p) ← bits data extra p
  let (k, p) ← distances.symbol data p
  let some (near, extra) := distanceOf k | .error .invalid
  let (far, p) ← bits data extra p
  .ok (least + more, near + far, p)

/-- The bytes and stretches of a block. At most `left` of them are to come. -/
def codes (literals distances : Code) (data : ByteArray) :
    (left p : Nat) → ByteArray → Inflated
  | 0, p, output => ⟨output, p, some .invalid⟩
  | left + 1, p, output =>
    match literals.symbol data p with
    | .error flaw => ⟨output, p, some flaw⟩
    | .ok (symbol, p) =>
      if symbol < 256 then codes literals distances data left p (output.push symbol.toUInt8)
      else if symbol = 256 then ⟨output, p, none⟩
      else
        match stretch distances data symbol p with
        | .error flaw => ⟨output, p, some flaw⟩
        | .ok (length, distance, p) =>
          codes literals distances data left p (repeated output distance length)

/-- A block of bytes as they stand. Their number is written twice, once with its bits turned. -/
def stored (data : ByteArray) (p : Nat) (output : ByteArray) : Inflated :=
  let start := (p + 7) / 8
  let header : Except Flaw (Nat × Nat) := do
    let (n, p) ← bits data 16 (8 * start)
    let (m, _) ← bits data 16 p
    .ok (n, m)
  match header with
  | .error flaw => ⟨output, p, some flaw⟩
  | .ok (n, m) =>
    if n + m ≠ 65535 then ⟨output, p, some .invalid⟩
    else
      let taken := data.extract (start + 4) (start + 4 + n)
      let flaw := if taken.size < n then some .short else none
      ⟨output ++ taken, 8 * (start + 4 + taken.size), flaw⟩

def fixedLiterals : Code :=
  .ofLengths 7 (List.replicate 144 8 ++ List.replicate 112 9 ++ List.replicate 24 7 ++
    List.replicate 8 8)

def fixedDistances : Code := .ofLengths 5 (List.replicate 30 5)

/-- The order in which the lengths of the codes for lengths are written. -/
def lengthOrder : List Nat := [16, 17, 18, 0, 8, 7, 9, 6, 10, 5, 11, 4, 12, 3, 13, 2, 14, 1, 15]

/-- So many numbers of three bits. -/
def triples (data : ByteArray) : Nat → Nat → Except Flaw (List Nat × Nat)
  | 0, p => .ok ([], p)
  | n + 1, p => do
    let (k, p) ← bits data 3 p
    let (ks, p) ← triples data n p
    .ok (k :: ks, p)

/-- Code lengths, in reverse behind those that were read before. `wanted`: how many there are to be
in all. At most `left` symbols are to come. -/
def lengths (c : Code) (data : ByteArray) (wanted : Nat) :
    (left p : Nat) → (before : List Nat) → Except Flaw (List Nat × Nat)
  | 0, _, _ => .error .invalid
  | left + 1, p, before => do
    if before.length = wanted then .ok (before.reverse, p)
    else if wanted < before.length then .error .invalid
    else
      let (symbol, p) ← c.symbol data p
      let go (length least extra : Nat) : Except Flaw (List Nat × Nat) := do
        let (more, p) ← bits data extra p
        lengths c data wanted left p (List.replicate (least + more) length ++ before)
      match symbol with
      | 16 => go (before.headD 0) 3 2
      | 17 => go 0 3 3
      | 18 => go 0 11 7
      | n => lengths c data wanted left p (n :: before)

/-- The two codes in front of a block that has its own. -/
def ownCodes (data : ByteArray) (p : Nat) : Except Flaw (Code × Code × Nat) := do
  let (literals, p) ← bits data 5 p
  let (distances, p) ← bits data 5 p
  let (shown, p) ← bits data 4 p
  if 29 < literals ∨ 29 < distances then .error .invalid
  else
    let (ks, p) ← triples data (shown + 4) p
    let given := lengthOrder.zip ks
    let first := Code.ofLengths 7 ((List.range 19).map fun s =>
      ((given.find? (·.1 == s)).map (·.2)).getD 0)
    if !first.isComplete then .error .invalid
    else
      let n := literals + 257
      let (ls, p) ← lengths first data (n + distances + 1) (n + distances + 2) p []
      let lit := Code.ofLengths 9 (ls.take n)
      let dist := Code.ofLengths 6 (ls.drop n)
      if lit.isComplete && dist.isComplete then .ok (lit, dist, p) else .error .invalid

/-- The blocks from a position on. At most so many of them. -/
def blocks (data : ByteArray) : Nat → Nat → ByteArray → Inflated
  | 0, p, output => ⟨output, p, some .invalid⟩
  | n + 1, p, output =>
    let header : Except Flaw (Nat × Nat × Nat) := do
      let (last, p) ← bit data p
      let (kind, p) ← bits data 2 p
      .ok (last, kind, p)
    match header with
    | .error flaw => ⟨output, p, some flaw⟩
    | .ok (last, kind, p) =>
      let symbols := 8 * data.size + 1
      let r :=
        match kind with
        | 0 => stored data p output
        | 1 => codes fixedLiterals fixedDistances data symbols p output
        | 2 =>
          match ownCodes data p with
          | .ok (literals, distances, p) => codes literals distances data symbols p output
          | .error flaw => ⟨output, p, some flaw⟩
        | _ => ⟨output, p, some .invalid⟩
      if r.flaw.isSome ∨ last = 1 then r else blocks data n r.position r.output

/-- Inflate what starts at a byte. -/
def inflate (data : ByteArray) (start : Nat) : Inflated :=
  blocks data (8 * data.size + 1) (8 * start) .empty

end BenchCheckout.Gzip

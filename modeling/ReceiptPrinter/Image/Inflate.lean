/-!
# Inflating compressed bytes

Compressed data is a sequence of blocks, stored or coded with two Huffman codes, in the zlib
format. Bits are read from the lowest bit of each byte on. Back references copy what was written
before. Data comes in pieces, each of which is read as far as it goes. How many bytes the data
stands for is known. Reading stops once they are there: what follows may be missing or corrupt, and
the checksum at the end is not looked at.
-/

namespace ReceiptPrinter.Inflate

/-- Bits in reading order. -/
abbrev Bits := List Bool

def bitsOf (bytes : List UInt8) : Bits :=
  bytes.flatMap fun b => (List.range 8).map fun i => b.toNat.testBit i

/-- Why reading stops: the data ends or cannot be read. -/
inductive Stop where
  | ended
  | corrupt
  deriving DecidableEq, Repr

/-- Takes a value from the front of the bits. -/
abbrev Reader (α : Type) := StateT Bits (Except Stop) α

def orCorrupt {α : Type} : Option α → Reader α
  | some a => pure a
  | none => throw .corrupt

def readBit : Reader Bool
  | [] => .error .ended
  | b :: bits => .ok (b, bits)

def readNat : Nat → Reader Nat
  | 0 => pure 0
  | n + 1 => do
    let b ← readBit
    return 2 * (← readNat n) + b.toNat

/-- Fails as cut off unless `n` bits are left, one at least. -/
def require (n : Nat) : Reader Unit := do
  if ((← get).drop (n - 1)).isEmpty then throw .ended

/-- A canonical Huffman code: how many codes there are of each length from one on, and the symbols
in the order of their codes. -/
structure Code where
  counts : List Nat
  symbols : List Nat

def longest : Nat := 15

namespace Code

/-- The code with these `lengths` for the symbols from zero on; a length of zero is no code. -/
def ofLengths (lengths : List Nat) : Code where
  counts := (List.range longest).map fun n => lengths.countP (· == n + 1)
  symbols := (List.range longest).flatMap fun n =>
    lengths.zipIdx.filterMap fun (length, symbol) => if length = n + 1 then some symbol else none

/-- Whether every sequence of bits starts with a code. -/
def isComplete (c : Code) : Bool :=
  c.counts.foldl (fun used count => 2 * used + count) 0 == 1 <<< longest

/-- Whether `c` may stand for distances: it may also be empty or hold one code of one bit. -/
def isDistanceCode (c : Code) : Bool :=
  c.isComplete || c.symbols.isEmpty || (c.symbols.length == 1 && c.counts.head? == some 1)

/-- Follows the bits of a code, `length` of which are read; `first` is the first code of the next
length. -/
def follow (symbols : List Nat) (code first index length : Nat) : List Nat → Reader (Nat × Nat)
  | [] => throw .corrupt
  | count :: counts => do
    let code := code + (← readBit).toNat
    if code < first + count then
      return (← orCorrupt symbols[index + (code - first)]?, length + 1)
    else follow symbols (2 * code) (2 * (first + count)) (index + count) (length + 1) counts

/-- Reads a symbol, with the length of its code. -/
def readWithLength (c : Code) : Reader (Nat × Nat) := follow c.symbols 0 0 0 0 c.counts

def read (c : Code) : Reader Nat := return (← c.readWithLength).1

/-- The second of two literals that are read at once, with the length of its code, after a first one
whose code has `length` bits. The second code has two bits or more, both have twelve or fewer, and
bits past the end of the piece count as zeros. -/
def second? (c : Code) (length : Nat) (bits : Bits) : Option (UInt8 × Nat) :=
  let most := 12 - length
  match follow c.symbols 0 0 0 0 (c.counts.take most)
      (bits.take most ++ List.replicate most false) with
  | .ok ((symbol, more), _) =>
    if symbol < 256 ∧ 2 ≤ more then some (UInt8.ofNat symbol, more) else none
  | .error _ => none

end Code

def lengthTable : List (Nat × Nat) :=
  [(3, 0), (4, 0), (5, 0), (6, 0), (7, 0), (8, 0), (9, 0), (10, 0), (11, 1), (13, 1), (15, 1),
    (17, 1), (19, 2), (23, 2), (27, 2), (31, 2), (35, 3), (43, 3), (51, 3), (59, 3), (67, 4),
    (83, 4), (99, 4), (115, 4), (131, 5), (163, 5), (195, 5), (227, 5), (258, 0)]

def distanceTable : List (Nat × Nat) :=
  [(1, 0), (2, 0), (3, 0), (4, 0), (5, 1), (7, 1), (9, 2), (13, 2), (17, 3), (25, 3), (33, 4),
    (49, 4), (65, 5), (97, 5), (129, 6), (193, 6), (257, 7), (385, 7), (513, 8), (769, 8),
    (1025, 9), (1537, 9), (2049, 10), (3073, 10), (4097, 11), (6145, 11), (8193, 12), (12289, 12),
    (16385, 13), (24577, 13)]

def readExtended (table : List (Nat × Nat)) (index : Nat) : Reader Nat := do
  let (base, extra) ← orCorrupt table[index]?
  return base + (← readNat extra)

/-- A part of a coded block: a literal, a back reference or the end. -/
inductive Item where
  | literal (byte : UInt8) (codeLength : Nat)
  | reference (length distance : Nat)
  | blockEnd
  deriving DecidableEq, Repr

/-- Reads an item of a coded block. -/
def readItem (literals distances : Code) : Reader Item := do
  let (symbol, codeLength) ← literals.readWithLength
  if symbol < 256 then return .literal (UInt8.ofNat symbol) codeLength
  else if symbol = 256 then return .blockEnd
  else
    let length ← readExtended lengthTable (symbol - 257)
    let distance ← readExtended distanceTable (← distances.read)
    return .reference length distance

/-- Copies bytes from `distance` back, one after the other, so a copy may overlap itself. -/
def copy (distance : Nat) : Nat → Array UInt8 → Array UInt8
  | 0, out => out
  | n + 1, out => copy distance n (out.push (out.getD (out.size - distance) 0))

/-- Reads items up to the end of a block, as far as the bits go, or until there are `size` bytes:
whether the block has ended, the bits that are left, and the bytes. Every item takes a bit, so
`fuel` bits suffice. Two literals that are read at once wait until the second one is there. -/
def readItems (literals distances : Code) (size : Nat) : Nat → Bits → Array UInt8 →
    Option (Bool × Bits × Array UInt8)
  | 0, bits, out => some (false, bits, out)
  | fuel + 1, bits, out =>
    if size ≤ out.size then some (false, bits, out)
    else
      match readItem literals distances bits with
      | .error .ended => some (false, bits, out)
      | .error .corrupt => none
      | .ok (.blockEnd, rest) => some (true, rest, out)
      | .ok (.literal byte codeLength, rest) =>
        match literals.second? codeLength rest with
        | none => readItems literals distances size fuel rest (out.push byte)
        | some (second, more) =>
          if (rest.drop (more - 1)).isEmpty then some (false, bits, out)
          else
            readItems literals distances size fuel (rest.drop more) ((out.push byte).push second)
      | .ok (.reference length distance, rest) =>
        if out.size < distance then none
        else readItems literals distances size fuel rest (copy distance length out)

/-- Reads so many bytes, as far as the bits go or until there are `size` in all: how many are
missing, the bits that are left, and the bytes. -/
def readBytes (size : Nat) : Nat → Bits → Array UInt8 → Nat × Bits × Array UInt8
  | 0, bits, out => (0, bits, out)
  | n + 1, bits, out =>
    if size ≤ out.size then (n + 1, bits, out)
    else
      match readNat 8 bits with
      | .error _ => (n + 1, bits, out)
      | .ok (value, rest) => readBytes size n rest (out.push (UInt8.ofNat value))

/-- Reads the length of a stored block, which its complement follows. -/
def readStoredLength : Reader Nat := do
  modify fun bits => bits.drop (bits.length % 8)
  let length ← readNat 16
  let complement ← readNat 16
  if length + complement = 65535 then return length else throw .corrupt

def fixedLiterals : Code :=
  .ofLengths (List.replicate 144 8 ++ List.replicate 112 9 ++ List.replicate 24 7 ++
    List.replicate 8 8)

/-- The fixed code of distances, of which the last two stand for nothing. -/
def fixedDistances : Code := .ofLengths (List.replicate 32 5)

/-- The order in which the lengths of the code for lengths are given. -/
def lengthOrder : List Nat := [16, 17, 18, 0, 8, 7, 9, 6, 10, 5, 11, 4, 12, 3, 13, 2, 14, 1, 15]

def readTriples : Nat → Reader (List Nat)
  | 0 => pure []
  | n + 1 => do
    let value ← readNat 3
    return value :: (← readTriples n)

/-- Reads code lengths, repeated ones in short form, until there are `total`. Every step gives one
length at least, so `total` steps suffice. No step is taken on fewer than seven bits. -/
def readLengths (code : Code) (total : Nat) : Nat → List Nat → Reader (List Nat)
  | 0, lengths => pure lengths
  | steps + 1, lengths =>
    if total ≤ lengths.length then pure lengths
    else do
      require 7
      let symbol ← code.read
      let (value, count) ←
        match symbol with
        | 16 =>
          let count ← readNat 2
          pure (← orCorrupt lengths.getLast?, 3 + count)
        | 17 => pure (0, 3 + (← readNat 3))
        | 18 => pure (0, 11 + (← readNat 7))
        | _ => pure (symbol, 1)
      readLengths code total steps (lengths ++ List.replicate count value)

/-- The codes with `lengths`, split after the literals. The end of a block must have a code. -/
def codesOfLengths (literals distances : Nat) (lengths : List Nat) : Reader (Code × Code) :=
  let literalCode := Code.ofLengths (lengths.take literals)
  let distanceCode := Code.ofLengths (lengths.drop literals)
  if lengths.length = literals + distances ∧ lengths[256]? ≠ some 0 ∧ literalCode.isComplete ∧
      distanceCode.isDistanceCode then
    pure (literalCode, distanceCode)
  else throw .corrupt

/-- Reads the codes of a block: at most 286 literals and lengths, at most 30 distances. -/
def readCodes : Reader (Code × Code) := do
  let literals := 257 + (← readNat 5)
  let distances := 1 + (← readNat 5)
  let given := 4 + (← readNat 4)
  if 286 < literals ∨ 30 < distances then throw .corrupt
  else
    let order := lengthOrder.zip (← readTriples given)
    let code := Code.ofLengths ((List.range 19).map fun symbol => (order.lookup symbol).getD 0)
    if code.isComplete then
      let total := literals + distances
      codesOfLengths literals distances (← readLengths code total total [])
    else throw .corrupt

/-- What comes next in the data. -/
inductive Phase where
  | start
  | head
  /-- Bytes of a stored block, of which so many are missing. -/
  | stored (last : Bool) (missing : Nat)
  /-- Items of a coded block. -/
  | coded (last : Bool) (literals distances : Code)
  | over

def Phase.afterBlock (last : Bool) : Phase := if last then .over else .head

/-- Reads the two bytes before the blocks: the method, a window of at most 32768 bytes, and flags
that make both a multiple of 31 and ask for no dictionary. -/
def readStart : Reader Phase := do
  let method ← readNat 8
  let flags ← readNat 8
  if method % 16 = 8 ∧ method / 16 ≤ 7 ∧ (256 * method + flags) % 31 = 0 ∧ flags / 32 % 2 = 0 then
    return .head
  else throw .corrupt

/-- Reads the head of a block: whether it is the last one, its kind, and its size or its codes. No
block is shorter than ten bits. A block of the fixed codes is over at once when it starts with the
seven zeros that end it. -/
def readHead : Reader Phase := do
  require 10
  let last ← readBit
  match ← readNat 2 with
  | 0 => return .stored last (← readStoredLength)
  | 1 =>
    if ((← get).take 7).any id then return .coded last fixedLiterals fixedDistances
    else
      modify (·.drop 7)
      return .afterBlock last
  | 2 =>
    let (literals, distances) ← readCodes
    return .coded last literals distances
  | _ => throw .corrupt

def readNext : Phase → Reader Phase
  | .start => readStart
  | .head => readHead
  | _ => throw .ended

/-- How far reading has come: what comes next, the bits that are left, and the bytes. -/
structure Progress where
  phase : Phase := .start
  bits : Bits := []
  out : Array UInt8 := #[]

namespace Progress

/-- Reads on as far as the bits go or until there are `size` bytes. Every part of the data takes a
bit, but for the bytes of an empty stored block, whose head takes more than one; so one step more
than there are bits suffices. What is cut off stays to be read. -/
def advance (size : Nat) : Nat → Progress → Option Progress
  | 0, p => some p
  | fuel + 1, ⟨phase, bits, out⟩ =>
    match phase with
    | .stored last missing =>
      match readBytes size missing bits out with
      | (0, bits, out) => advance size fuel ⟨.afterBlock last, bits, out⟩
      | (missing, bits, out) => some ⟨.stored last missing, bits, out⟩
    | .coded last literals distances =>
      match readItems literals distances size fuel bits out with
      | some (true, bits, out) => advance size fuel ⟨.afterBlock last, bits, out⟩
      | some (false, bits, out) => some ⟨phase, bits, out⟩
      | none => none
    | _ =>
      match readNext phase bits with
      | .ok (phase, bits) => advance size fuel ⟨phase, bits, out⟩
      | .error .ended => some ⟨phase, bits, out⟩
      | .error .corrupt => none

/-- Reads `piece` after what is left in `p`, unless there are `size` bytes already. -/
def readPiece (size : Nat) (p : Progress) (piece : List UInt8) : Option Progress :=
  if size ≤ p.out.size then some p
  else
    let bits := p.bits ++ bitsOf piece
    advance size (bits.length + 1) { p with bits }

end Progress

/-- The first `size` bytes that zlib data in `pieces` stands for. -/
def inflate? (size : Nat) (pieces : List (List UInt8)) : Option (Array UInt8) := do
  let p ← pieces.foldlM (Progress.readPiece size) {}
  if p.out.size < size then none
  return p.out.extract 0 size

end ReceiptPrinter.Inflate

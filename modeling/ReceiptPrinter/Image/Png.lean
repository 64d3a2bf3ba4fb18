import ReceiptPrinter.Image.Basic
import ReceiptPrinter.Image.Inflate

/-!
# PNG pictures

Pictures of eight bits per channel: grey, grey with opacity, colour, and colour with opacity, not
interlaced; one grey or one colour may be marked as transparent. A picture is a sequence of chunks,
each with a checksum of its name and its data. A damaged chunk is passed over where it is one that
a reader may ignore, and so are most of those whose data make no sense. The data of the picture is
one run of chunks, and something has to follow it. In an animation the first frame may stand for the
picture.
-/

namespace ReceiptPrinter.Png

def signature : List UInt8 := [0x89, 0x50, 0x4E, 0x47, 0x0D, 0x0A, 0x1A, 0x0A]

/-- A number of four bytes, the highest first. -/
def word (a b c d : UInt8) : Nat := ((a.toNat * 256 + b.toNat) * 256 + c.toNat) * 256 + d.toNat

def words : List UInt8 → List Nat
  | a :: b :: c :: d :: rest => word a b c d :: words rest
  | _ => []

def crcBit (crc : UInt32) : UInt32 :=
  if crc &&& 1 = 1 then (crc >>> 1) ^^^ 0xEDB88320 else crc >>> 1

def crcByte (crc : UInt32) (b : UInt8) : UInt32 :=
  (List.range 8).foldl (fun crc _ => crcBit crc) (crc ^^^ b.toUInt32)

/-- The CRC-32 of `bytes`. -/
def crc (bytes : List UInt8) : UInt32 := (bytes.foldl crcByte 0xFFFFFFFF) ^^^ 0xFFFFFFFF

/-- The chunks that are looked at, all others being `other`. -/
inductive Kind where
  | header
  | palette
  | transparency
  | data
  /-- Announces a frame of an animation. -/
  | frame
  | frameData
  /-- The code points of the colour space. -/
  | codePoints
  /-- The display the picture was made on. -/
  | display
  | lightLevel
  | other
  deriving DecidableEq, Repr

def kinds : List (List UInt8 × Kind) :=
  [([0x49, 0x48, 0x44, 0x52], .header), ([0x50, 0x4C, 0x54, 0x45], .palette),
    ([0x74, 0x52, 0x4E, 0x53], .transparency), ([0x49, 0x44, 0x41, 0x54], .data),
    ([0x66, 0x63, 0x54, 0x4C], .frame), ([0x66, 0x64, 0x41, 0x54], .frameData),
    ([0x63, 0x49, 0x43, 0x50], .codePoints), ([0x6D, 0x44, 0x43, 0x56], .display),
    ([0x63, 0x4C, 0x4C, 0x49], .lightLevel)]

/-- A named part of a picture file. -/
structure Chunk where
  name : List UInt8
  data : List UInt8
  /-- Whether the chunk is whole and its checksum agrees. -/
  isIntact : Bool

namespace Chunk

def kind (c : Chunk) : Kind := (kinds.lookup c.name).getD .other

/-- Whether a reader may ignore the chunk: its name starts with a small letter. -/
def isOptional (c : Chunk) : Bool := c.name.head?.any (· &&& 32 != 0)

def holdsData (c : Chunk) : Bool := c.kind = .data || c.kind = .frameData

end Chunk

/-- The chunks, of which the last one may be cut short after its name; `steps` bounds their number.
-/
def chunks : Nat → List UInt8 → List Chunk
  | steps + 1, a :: b :: c :: d :: rest =>
    let body := rest.take (4 + word a b c d)
    let name := body.take 4
    let data := body.drop 4
    match rest.drop (4 + word a b c d) with
    | e :: f :: g :: h :: rest =>
      ⟨name, data, (crc body).toNat == word e f g h⟩ :: chunks steps rest
    | _ => if name.length = 4 then [⟨name, data, false⟩] else []
  | _, _ => []

structure Header where
  width : Nat
  height : Nat
  channels : Nat

def channels? : Nat → Option Nat
  | 0 => some 1
  | 2 => some 3
  | 4 => some 2
  | 6 => some 4
  | _ => none

def Chunk.header? (c : Chunk) : Option Header :=
  match c.data with
  | [w0, w1, w2, w3, h0, h1, h2, h3, depth, colour, compression, filter, interlace] => do
    let width := word w0 w1 w2 w3
    let height := word h0 h1 h2 h3
    if c.kind ≠ .header ∨ !c.isIntact ∨ depth ≠ 8 ∨ compression ≠ 0 ∨ filter ≠ 0 ∨
        interlace ≠ 0 ∨ width = 0 ∨ height = 0 then none
    let channels ← channels? colour.toNat
    return ⟨width, height, channels⟩
  | _ => none

/-- What the chunks between the header and the data say. -/
structure Preamble where
  /-- The kinds of which only one chunk counts and one has been. -/
  seen : List Kind := []
  /-- How many frames are announced. -/
  frames : Nat := 0
  transparent : Option (List UInt8) := none

/-- The samples that `data` mark as transparent, in the low byte of each. -/
def transparent? (header : Header) (data : List UInt8) : Option (List UInt8) :=
  match header.channels, data with
  | 1, _ :: grey :: _ => some [grey]
  | 3, _ :: red :: _ :: green :: _ :: blue :: _ => some [red, green, blue]
  | _, _ => none

/-- Whether `data` announce frame `number` and it covers the picture: number, width, height and
offsets, a delay of four bytes, what becomes of the frame and how it is drawn. -/
def isFrame (header : Header) (number : Nat) (data : List UInt8) : Bool :=
  words (data.take 20) == [number, header.width, header.height, 0, 0] &&
    match data.drop 24 with
    | [disposal, blending] => disposal ≤ 2 && blending ≤ 1
    | _ => false

/-- How many bytes the data of a chunk about colours take. -/
def Kind.colourSize : Kind → Nat
  | .codePoints => 4
  | .display => 24
  | .lightLevel => 8
  | _ => 0

/-- Whether `data` about colours that are long enough make sense. Code points for red, green and
blue have no matrix, and a flag after it. -/
def areColours (kind : Kind) (data : List UInt8) : Bool :=
  data.length == kind.colourSize &&
    match kind, data with
    | .codePoints, [_, _, matrix, fullRange] => matrix == 0 && fullRange ≤ 1
    | _, _ => true

namespace Preamble

/-- Takes in a chunk about colours. It does not count when it is too short, not the first one or,
but for a light level, behind a palette. -/
def addColours? (p : Preamble) (kind : Kind) (data : List UInt8) : Option Preamble :=
  if data.length < kind.colourSize ∨ kind ∈ p.seen ∨
      (kind ≠ .lightLevel ∧ Kind.palette ∈ p.seen) then some p
  else if areColours kind data then some { p with seen := kind :: p.seen }
  else none

/-- Takes in a chunk. A palette, which no picture here needs, has 3 to 768 bytes. Of two chunks
about transparency the first one that makes sense counts. -/
def add? (header : Header) (p : Preamble) (c : Chunk) : Option Preamble :=
  if !c.isIntact then if c.isOptional then some p else none
  else
    match c.kind with
    | .palette =>
      if Kind.palette ∈ p.seen ∨ c.data.length < 3 ∨ 768 < c.data.length then none
      else some { p with seen := .palette :: p.seen }
    | .transparency =>
      some { p with transparent := p.transparent.or (transparent? header c.data) }
    | .frame =>
      if isFrame header p.frames c.data then some { p with frames := p.frames + 1 } else none
    | .codePoints | .display | .lightLevel => p.addColours? c.kind c.data
    | .header | .data | .frameData | .other => if c.isOptional then some p else none

end Preamble

/-- The pieces of the data of a frame. The chunks are numbered on from the announced frames, of
which there has to be one. -/
def framePieces? : Nat → List Chunk → Option (List (List UInt8))
  | _, [] => some []
  | number, c :: cs =>
    if number = 0 ∨ words (c.data.take 4) ≠ [number] then none
    else (framePieces? (number + 1) cs).map (c.data.drop 4 :: ·)

/-- The pieces of the data of a picture, from `data` or from `frameData` chunks. -/
def pieces? (frames : Nat) (cs : List Chunk) : Option (List (List UInt8)) :=
  if cs.all (·.kind = .frameData) then framePieces? frames cs
  else if cs.all (·.isIntact) then some (cs.map (·.data))
  else none

/-- The predictor that takes the nearest of left, above and above left. -/
def paeth (a b c : Nat) : Nat :=
  let distance (x : Nat) : Nat := ((a : Int) + b - c - x).natAbs
  if distance a ≤ distance b ∧ distance a ≤ distance c then a
  else if distance b ≤ distance c then b
  else c

/-- The prediction of a byte from its neighbours, by the row's `filter`. -/
def predict? (filter left above corner : Nat) : Option Nat :=
  match filter with
  | 0 => some 0
  | 1 => some left
  | 2 => some above
  | 3 => some ((left + above) / 2)
  | 4 => some (paeth left above corner)
  | _ => none

/-- Restores the bytes of a row from column `i` on; `out` holds what is restored and `row` is where
the row starts in it. -/
def restoreRow (channels stride filter row : Nat) : Nat → List UInt8 → Array UInt8 →
    Option (Array UInt8)
  | _, [], out => some out
  | i, b :: bytes, out =>
    let sample (place : Nat) (inside : Bool) : Nat := if inside then (out.getD place 0).toNat else 0
    let left := sample (row + i - channels) (channels ≤ i)
    let above := sample (row + i - stride) (stride ≤ row)
    let corner := sample (row + i - stride - channels) (stride ≤ row && channels ≤ i)
    match predict? filter left above corner with
    | none => none
    | some predicted =>
      restoreRow channels stride filter row (i + 1) bytes
        (out.push (UInt8.ofNat (b.toNat + predicted)))

def restoreRows (channels stride : Nat) : Nat → List UInt8 → Array UInt8 → Option (Array UInt8)
  | 0, _, out => some out
  | _ + 1, [], _ => none
  | rows + 1, filter :: bytes, out =>
    let row := bytes.take stride
    if row.length < stride then none
    else do
      let out ← restoreRow channels stride filter.toNat out.size 0 row out
      restoreRows channels stride rows (bytes.drop stride) out

/-- The pixel with these samples, clear where they are the `transparent` ones. -/
def pixelOf (transparent : Option (List UInt8)) (samples : List UInt8) : Pixel :=
  let opacity : UInt8 := if transparent = some samples then 0 else 255
  match samples with
  | [grey] => ⟨grey, grey, grey, opacity⟩
  | [grey, opacity] => ⟨grey, grey, grey, opacity⟩
  | [red, green, blue] => ⟨red, green, blue, opacity⟩
  | [red, green, blue, opacity] => ⟨red, green, blue, opacity⟩
  | _ => default

/-- The picture that `pieces` of compressed data stand for. -/
def picture? (header : Header) (transparent : Option (List UInt8)) (pieces : List (List UInt8)) :
    Option Image := do
  let stride := header.channels * header.width
  let data ← Inflate.inflate? (header.height * (stride + 1)) pieces
  let bytes ← restoreRows header.channels stride header.height data.toList #[]
  return ⟨header.width, header.height, fun x y =>
    let place := y * stride + header.channels * x
    pixelOf transparent ((List.range header.channels).map fun i => bytes.getD (place + i) 0)⟩

/-- The picture of the chunks after the signature. -/
def ofChunks : List Chunk → Option Image
  | [] => none
  | first :: rest => do
    let header ← first.header?
    let preamble ← (rest.takeWhile (!·.holdsData)).foldlM (Preamble.add? header) {}
    let after := rest.dropWhile (!·.holdsData)
    let run := after.takeWhile fun c => after.head?.any (·.kind = c.kind)
    if run.length = after.length then none
    picture? header preamble.transparent (← pieces? preamble.frames run)

/-- Reads a picture of eight bits a sample, not interlaced and without a palette. -/
def decode? (bytes : List UInt8) : Option Image :=
  if signature.isPrefixOf bytes then ofChunks (chunks bytes.length (bytes.drop signature.length))
  else none

end ReceiptPrinter.Png

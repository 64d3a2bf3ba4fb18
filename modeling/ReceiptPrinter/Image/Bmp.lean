import ReceiptPrinter.Image.Basic

/-!
# Windows bitmaps

Uncompressed pictures of 24 bits per pixel. Rows are padded to four bytes and run from the bottom
up, unless the height is negative. Headers of several sizes are in use; the shortest one has sizes
of sixteen bits, all others start with the same fields.
-/

namespace ReceiptPrinter.Bmp

/-- A number of so many bytes from `place` on, the lowest first. -/
def readNat (bytes : Array UInt8) (place : Nat) : Nat → Nat
  | 0 => 0
  | n + 1 => (bytes.getD place 0).toNat + 256 * readNat bytes (place + 1) n

def readInt (bytes : Array UInt8) (place : Nat) : Int :=
  (BitVec.ofNat 32 (readNat bytes place 4)).toInt

structure Header where
  width : Int
  /-- Negative if the rows run from the top down. -/
  height : Int
  planes : Nat
  bitsPerPixel : Nat
  compression : Nat

/-- Reads the header, which follows the fourteen bytes of the file header. -/
def header? (bytes : Array UInt8) : Option Header :=
  match readNat bytes 14 4 with
  | 12 =>
    if bytes.size < 26 then none
    else some ⟨readNat bytes 18 2, readNat bytes 20 2, readNat bytes 22 2, readNat bytes 24 2, 0⟩
  | 40 | 52 | 56 | 108 | 124 =>
    if bytes.size < 54 then none
    else
      some ⟨readInt bytes 18, readInt bytes 22, readNat bytes 26 2, readNat bytes 28 2,
        readNat bytes 30 4⟩
  | _ => none

/-- The largest width, and the largest height of a picture that runs from the bottom up. -/
def largest : Nat := 65535

def Header.isReadable (h : Header) : Bool :=
  0 < h.width && h.width ≤ largest && h.height ≠ 0 && h.height ≤ largest && h.planes == 1 &&
    h.bitsPerPixel == 24 && h.compression == 0

/-- Reads a picture of 24 bits a pixel without compression, the one kind that `isReadable`. -/
def decode? (input : List UInt8) : Option Image := do
  let bytes := input.toArray
  if readNat bytes 0 2 ≠ 0x4D42 then none
  let header ← header? bytes
  let start := readNat bytes 10 4
  let rows := header.height.natAbs
  let columns := header.width.toNat
  let stride := (3 * columns + 3) / 4 * 4
  if !header.isReadable ∨ bytes.size < start + stride * rows then none
  return ⟨columns, rows, fun x y =>
    let row := if 0 ≤ header.height then rows - 1 - y else y
    let place := start + row * stride + 3 * x
    ⟨bytes.getD (place + 2) 0, bytes.getD (place + 1) 0, bytes.getD place 0, 255⟩⟩

end ReceiptPrinter.Bmp

import ReceiptPrinter.Hex

/-!
# One-bit bitmaps

A bitmap holds its rows from top to bottom, each padded to whole bytes, the most significant bit
first. Its descriptor is hexadecimal text: width and height as two little-endian words of sixteen
bits, then the rows.
-/

namespace ReceiptPrinter

/-- Bytes in a row of `width` dots, the last one padded. -/
def bytesForDots (width : Nat) : Nat := (width + 7) / 8

/-- A black and white picture of at most 65535 dots each way, its rows one after the other in
`data`. -/
structure Bitmap where
  width : Nat
  height : Nat
  data : List UInt8
  width_pos : 1 ≤ width
  width_le : width ≤ 65535
  height_pos : 1 ≤ height
  height_le : height ≤ 65535
  data_length : data.length = bytesForDots width * height
  deriving DecidableEq, Repr

/-- Why a size and bytes, or a descriptor, form no `Bitmap`. -/
inductive BitmapFault where
  | empty (width height : Nat)
  | tooLarge (width height : Nat)
  | wrongLength (expected width height got : Nat)
  | badHex (fault : HexFault)
  /-- A descriptor shorter than its header. -/
  | noHeader
  deriving DecidableEq, Repr

def BitmapFault.message : BitmapFault → String
  | .empty width height => s!"empty bitmap {width}x{height}"
  | .tooLarge width height => s!"bitmap {width}x{height} is too large"
  | .wrongLength expected width height got =>
    s!"expected {expected} bytes of pixel data for {width}x{height}, got {got}"
  | .badHex fault => s!"bad hex payload: {fault.message}"
  | .noHeader => "payload shorter than its 4 byte header"

namespace Bitmap

def rowBytes (b : Bitmap) : Nat := bytesForDots b.width

/-- The bitmap of a size with the given rows. Refused unless `data` is exactly `height` rows. -/
def ofData (width height : Nat) (data : List UInt8) : Except BitmapFault Bitmap :=
  if _ : width = 0 ∨ height = 0 then .error (.empty width height)
  else if _ : width > 65535 ∨ height > 65535 then .error (.tooLarge width height)
  else if h : data.length ≠ bytesForDots width * height then
    .error (.wrongLength (bytesForDots width * height) width height data.length)
  else
    .ok ⟨width, height, data, by omega, by omega, by omega, by omega,
      Decidable.not_not.mp h⟩

/-- `n` as a word of sixteen bits, low byte first. -/
def wordBytes (n : Nat) : List UInt8 := [UInt8.ofNat n, UInt8.ofNat (n / 256)]

/-- Reads the descriptor that `toHex` writes: width and height as words, then the rows, all in
hexadecimal. White space around it is ignored. -/
def ofHex (payload : Text) : Except BitmapFault Bitmap :=
  match Hex.decode (Text.trim payload) with
  | .error fault => .error (.badHex fault)
  | .ok (w0 :: w1 :: h0 :: h1 :: data) =>
    ofData (w0.toNat + 256 * w1.toNat) (h0.toNat + 256 * h1.toNat) data
  | .ok _ => .error .noHeader

def toHex (b : Bitmap) : Text :=
  Hex.encode (wordBytes b.width ++ wordBytes b.height ++ b.data)

end Bitmap

end ReceiptPrinter

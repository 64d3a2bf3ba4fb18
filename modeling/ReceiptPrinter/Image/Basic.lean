import ReceiptPrinter.Number.Rounding
import ReceiptPrinter.Receipt.Error

/-!
# Pictures as black and white dots

A picture wider than the paper is first scaled down to its width. A pixel is black when it is at
least half opaque and darker than half of the brightness; brightness and scaling are computed in
single precision, the height of a scaled picture in double precision.
-/

namespace ReceiptPrinter

open Number

structure Pixel where
  red : UInt8
  green : UInt8
  blue : UInt8
  opacity : UInt8 := 255
  deriving DecidableEq, Repr, Inhabited

namespace Pixel

/-- For every value of a channel its share in `luma`, with a weight in thousandths. -/
def shares (thousandths : Nat) : Array Nat :=
  let single := Format.single
  (Array.range 256).map fun channel =>
    single.mul (single.ofDecimal thousandths (-3)) (single.ofNat channel)

def redShares : Array Nat := shares 299

def greenShares : Array Nat := shares 587

def blueShares : Array Nat := shares 114

/-- The brightness, from 0 to 255: the weighted sum of the channels in single precision, rounded
down. -/
def luma (p : Pixel) : Nat :=
  let single := Format.single
  let share (table : Array Nat) (channel : UInt8) : Nat := table.getD channel.toNat 0
  let redAndGreen := single.add (share redShares p.red) (share greenShares p.green)
  min 255 (single.floor (single.add redAndGreen (share blueShares p.blue)))

def isBlack (p : Pixel) : Bool := 128 ≤ p.opacity.toNat && p.luma < 128

end Pixel

/-- A picture of any size; only pixels inside it count. -/
structure Image where
  width : Nat
  height : Nat
  /-- The pixel in a column and a row. -/
  pixel : Nat → Nat → Pixel

namespace Image

/-- The place in `size` that is shown at `place` in `shown`: its middle, scaled back. -/
def sourcePlace (size shown place : Nat) : Nat :=
  let single := Format.single
  let half := single.ofDecimal 5 (-1)
  let step := single.div (single.ofNat size) (single.ofNat shown)
  min (size - 1) (single.floor (single.mul (single.add (single.ofNat place) half) step))

def sourcePlaces (size shown : Nat) : Array Nat :=
  (Array.range shown).map (sourcePlace size shown)

/-- The picture in another size, each pixel taken from its `sourcePlace`. -/
def resize (image : Image) (width height : Nat) : Image :=
  let columns := sourcePlaces image.width width
  let rows := sourcePlaces image.height height
  ⟨width, height, fun x y => image.pixel (columns.getD x 0) (rows.getD y 0)⟩

/-- The height that keeps the proportions at another `width`, computed in double precision. -/
def scaledHeight (image : Image) (width : Nat) : Nat :=
  let double := Format.double
  let ratio := double.div (double.ofNat width) (double.ofNat image.width)
  max 1 (min (UInt32.size - 1) (double.floor (double.mul (double.ofNat image.height) ratio)))

/-- The picture, scaled down to the width `most` if it is wider. -/
def fit (image : Image) (most : Nat) : Image :=
  if most < image.width then image.resize most (image.scaledHeight most) else image

/-- Eight dots as a byte, `dot 0` in the highest bit. -/
def packByte (dot : Nat → Bool) : UInt8 :=
  (List.range 8).foldl (fun byte bit => 2 * byte + if dot bit then 1 else 0) 0

def packRow (image : Image) (y : Nat) : List UInt8 :=
  (List.range (bytesForDots image.width)).map fun i =>
    packByte fun bit =>
      let x := 8 * i + bit
      x < image.width && (image.pixel x y).isBlack

def pack (image : Image) : List UInt8 := (List.range image.height).flatMap image.packRow

/-- The bitmap of a picture after `fit`, at most `most` dots wide. -/
def rasterize (image : Image) (most : Nat) : Except PictureFault Bitmap :=
  if image.width = 0 ∨ image.height = 0 then .error .noPixels
  else
    let shown := image.fit most
    match Bitmap.ofData shown.width shown.height shown.pack with
    | .ok bitmap => .ok bitmap
    | .error fault => .error (.bitmap fault)

end Image

end ReceiptPrinter

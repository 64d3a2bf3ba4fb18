import ReceiptPrinter.Markup.Element

/-!
# Printer commands

The commands of the printer's firmware that receipts use, and the bytes of each. Numbers that a
command holds in one byte are reduced to one; the module sizes of barcodes and QR codes are also
kept inside the range the firmware knows.
-/

namespace ReceiptPrinter

/-- A firmware command, or one byte to print. `bytes` gives its encoding. -/
inductive Command where
  | reset
  | enterChinese
  | leaveChinese
  /-- Selects the code of Chinese mode, `FS C n`. -/
  | chineseCode (n : Nat)
  | codeTable (n : Nat)
  | align (align : Align)
  | bold (on : Bool)
  | underline (on : Bool)
  | size (size : TextSize)
  /-- Prints one byte of text. -/
  | print (byte : UInt8)
  | lineFeed
  | feedDots (n : Nat)
  /-- Feeds to the cutter and cuts, down to a `bridge` of paper or through. -/
  | cut (bridge : Bool)
  | openDrawer
  | raster (rowBytes rows : Nat) (data : List UInt8)
  | barcodeHeight (n : Nat)
  | barcodeModule (n : Nat)
  | barcodeText (position : TextPosition)
  | barcode (symbology : Symbology) (data : List UInt8)
  | qrModel
  | qrModule (n : Nat)
  /-- Error correction level M. -/
  | qrCorrection
  | qrStore (data : List UInt8)
  | qrPrint
  deriving DecidableEq, Repr

def Align.byte : Align → UInt8
  | .left => 0
  | .center => 1
  | .right => 2

/-- The byte of `GS !`: width in the high half, height in the low half. -/
def TextSize.byte : TextSize → UInt8
  | .normal => 0x00
  | .big => 0x11
  | .tall => 0x01
  | .wide => 0x10

def TextPosition.byte : TextPosition → UInt8
  | .none => 0
  | .above => 1
  | .below => 2
  | .both => 3

def Symbology.byte : Symbology → UInt8
  | .upcA => 65
  | .ean13 => 67
  | .ean8 => 68
  | .code128 => 73

namespace Command

/-- `n` kept between `low` and `high`. -/
def clamp (low high n : Nat) : Nat := max low (min high n)

def clampBarcodeModule (n : Nat) : Nat := clamp 2 6 n

def clampQrModule (n : Nat) : Nat := clamp 1 16 n

def flag (on : Bool) : UInt8 := if on then 1 else 0

def word (n : Nat) : List UInt8 := Bitmap.wordBytes n

/-- The encoding of a command. Numbers held in one byte are reduced to it; module sizes are also
clamped to the range of the firmware. -/
def bytes : Command → List UInt8
  | reset => [0x1B, 0x40]
  | enterChinese => [0x1C, 0x26]
  | leaveChinese => [0x1C, 0x2E]
  | chineseCode n => [0x1C, 0x43, UInt8.ofNat n]
  | codeTable n => [0x1B, 0x74, UInt8.ofNat n]
  | align a => [0x1B, 0x61, a.byte]
  | bold on => [0x1B, 0x45, flag on]
  | underline on => [0x1B, 0x2D, flag on]
  | size s => [0x1D, 0x21, s.byte]
  | print b => [b]
  | lineFeed => [0x0A]
  | feedDots n => [0x1B, 0x4A, UInt8.ofNat n]
  | cut bridge => [0x1D, 0x56, if bridge then 0x42 else 0x41, 0x00]
  | openDrawer => [0x1B, 0x70, 0x00, 25, 250]
  | raster rowBytes rows data => [0x1D, 0x76, 0x30, 0x00] ++ word rowBytes ++ word rows ++ data
  | barcodeHeight n => [0x1D, 0x68, UInt8.ofNat n]
  | barcodeModule n => [0x1D, 0x77, UInt8.ofNat (clampBarcodeModule n)]
  | barcodeText p => [0x1D, 0x48, p.byte]
  | barcode s data => [0x1D, 0x6B, s.byte, UInt8.ofNat data.length] ++ data
  | qrModel => [0x1D, 0x28, 0x6B, 0x04, 0x00, 0x31, 0x41, 0x32, 0x00]
  | qrModule n => [0x1D, 0x28, 0x6B, 0x03, 0x00, 0x31, 0x43, UInt8.ofNat (clampQrModule n)]
  | qrCorrection => [0x1D, 0x28, 0x6B, 0x03, 0x00, 0x31, 0x45, 0x31]
  | qrStore data => [0x1D, 0x28, 0x6B] ++ word (data.length + 3) ++ [0x31, 0x50, 0x30] ++ data
  | qrPrint => [0x1D, 0x28, 0x6B, 0x03, 0x00, 0x31, 0x51, 0x30]

/-- The bytes of `commands` in order. -/
def stream (commands : List Command) : List UInt8 := commands.flatMap bytes

def feedLines (n : Nat) : List Command := List.replicate n lineFeed

/-- Feeds by `dots`, at most 255 at a time, which is what `ESC J` takes. -/
def feedBy (dots : Nat) : List Command :=
  List.replicate (dots / 255) (feedDots 255) ++
    if dots % 255 = 0 then [] else [feedDots (dots % 255)]

def bandRows : Nat := 128

def rasterBand (b : Bitmap) (first rows : Nat) : Command :=
  raster b.rowBytes rows ((b.data.drop (first * b.rowBytes)).take (rows * b.rowBytes))

/-- The raster commands for `rows` rows from row `first` on, at most `bandRows` in each. -/
def rasterBandsFrom (b : Bitmap) (first rows : Nat) : List Command :=
  if rows = 0 then []
  else
    rasterBand b first (min rows bandRows) ::
      rasterBandsFrom b (first + min rows bandRows) (rows - min rows bandRows)
termination_by rows
decreasing_by simp only [bandRows]; omega

def rasterBands (b : Bitmap) : List Command := rasterBandsFrom b 0 b.height

/-- Stores `data` and prints it as a QR code of level M. -/
def qrCode (data : List UInt8) (moduleSize : Nat) : List Command :=
  [qrModel, qrModule moduleSize, qrCorrection, qrStore data, qrPrint]

end Command

end ReceiptPrinter

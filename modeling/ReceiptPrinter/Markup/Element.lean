import ReceiptPrinter.Bitmap
import ReceiptPrinter.Number.Single

/-!
# Receipt elements

A receipt is a list of elements: runs of text, pictures, barcodes, QR codes and blank lines. Text
runs carry their own style; a run that ends its line says so.
-/

namespace ReceiptPrinter

open Number

inductive Align where
  | left
  | center
  | right
  deriving DecidableEq, Repr

inductive TextSize where
  | normal
  /-- Double width and double height. -/
  | big
  /-- Double height. -/
  | tall
  /-- Double width. -/
  | wide
  deriving DecidableEq, Repr

namespace TextSize

/-- Columns taken by a character of one column. -/
def widthScale : TextSize → Nat
  | .big | .wide => 2
  | .normal | .tall => 1

def name : TextSize → Text
  | .normal => "normal".toList
  | .big => "big".toList
  | .tall => "tall".toList
  | .wide => "wide".toList

def all : List TextSize := [.normal, .big, .tall, .wide]

def ofName? (s : Text) : Option TextSize := all.find? fun size => size.name == Text.lower s

end TextSize

/-- How text looks. -/
structure TextStyle where
  bold : Bool := false
  underline : Bool := false
  size : TextSize := .normal
  deriving DecidableEq, Repr

/-- A stretch of text of one style and placement. -/
structure TextRun where
  content : Text
  align : Align := .left
  style : TextStyle := {}
  /-- Whether the printed line ends after the run. -/
  endsLine : Bool := false
  deriving DecidableEq, Repr

/-- `content` as a whole line in the default style. -/
def TextRun.line (content : Text) (align : Align) : TextRun :=
  { content, align, endsLine := true }

inductive Symbology where
  | ean13
  | ean8
  | upcA
  | code128
  deriving DecidableEq, Repr

namespace Symbology

def name : Symbology → Text
  | .ean13 => "ean13".toList
  | .ean8 => "ean8".toList
  | .upcA => "upca".toList
  | .code128 => "128".toList

def title : Symbology → String
  | .ean13 => "EAN13"
  | .ean8 => "EAN8"
  | .upcA => "UPCA"
  | .code128 => "CODE128"

def names : List (Text × Symbology) :=
  [("ean13".toList, .ean13), ("ean-13".toList, .ean13), ("ean8".toList, .ean8),
    ("ean-8".toList, .ean8), ("upca".toList, .upcA), ("upc-a".toList, .upcA),
    ("128".toList, .code128), ("code128".toList, .code128), ("code-128".toList, .code128)]

/-- The kind of a name; letter case and white space around it do not matter. -/
def ofName? (s : Text) : Option Symbology := names.lookup (Text.lower (Text.trim s))

end Symbology

/-- Where the digits of a barcode are printed for the human reader. -/
inductive TextPosition where
  | none
  | above
  | below
  | both
  deriving DecidableEq, Repr

namespace TextPosition

def name : TextPosition → Text
  | .none => "none".toList
  | .above => "above".toList
  | .below => "below".toList
  | .both => "both".toList

def all : List TextPosition := [.none, .above, .below, .both]

/-- The position of a name in any letter case. -/
def ofName? (s : Text) : Option TextPosition :=
  all.find? fun position => position.name == Text.lower s

end TextPosition

/-- A linear barcode; lengths are in millimetres. -/
structure Barcode where
  symbology : Symbology
  content : Text
  height : Single := Single.ofNat 10
  /-- The wanted width; without one the symbol is as wide as fits. -/
  width : Option Single := Option.none
  textPosition : TextPosition := .below
  align : Align := .center
  deriving DecidableEq, Repr

/-- A QR code with the wanted dots per module. -/
structure QrCode where
  content : Text
  moduleSize : UInt8
  align : Align := .center
  deriving DecidableEq, Repr

/-- Dots per module where none are asked for. -/
def QrCode.defaultSize : UInt8 := 25

structure Picture where
  bitmap : Bitmap
  align : Align := .center
  deriving DecidableEq, Repr

inductive Element where
  | text (run : TextRun)
  | picture (picture : Picture)
  | barcode (barcode : Barcode)
  | qrCode (code : QrCode)
  /-- Blank lines. -/
  | feed (lines : Nat)
  deriving DecidableEq, Repr

end ReceiptPrinter

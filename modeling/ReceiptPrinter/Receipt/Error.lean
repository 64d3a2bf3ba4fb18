import ReceiptPrinter.Markup.Element

/-!
# Elements that cannot be printed

The faults of barcodes, QR codes and pictures, and the errors that name them.
-/

namespace ReceiptPrinter

inductive BarcodeFault where
  | notDigits
  | wrongLength (payload got : Nat)
  | wrongCheckDigit (expected got : Nat)
  | empty
  | unprintable (c : Char)
  | tooLong (most : Nat)
  deriving DecidableEq, Repr

def BarcodeFault.message : BarcodeFault → String
  | .notDigits => "only digits are allowed"
  | .wrongLength payload got =>
    s!"expected {payload} digits, or {payload + 1} with check digit, got {got}"
  | .wrongCheckDigit expected got => s!"check digit should be {expected}, got {got}"
  | .empty => "content is empty"
  | .unprintable c => s!"character {Text.asString (Text.quoted c)} is not printable ASCII"
  | .tooLong most => s!"longer than {most} characters"

inductive QrFault where
  | empty
  /-- More than one line, or the tag that ends a QR code. -/
  | notOneLine
  /-- More data than the largest symbol holds. -/
  | tooLong
  deriving DecidableEq, Repr

def QrFault.message : QrFault → String
  | .empty => "content is empty"
  | .notOneLine => "content must be a single line without markup"
  | .tooLong => "QR code generation failed: data too long"

inductive Base64Fault where
  | badSymbol (byte : UInt8) (position : Nat)
  | badLength (length : Nat)
  /-- A last symbol whose unused bits are not zero. -/
  | badLastSymbol (byte : UInt8) (position : Nat)
  | badPadding
  deriving DecidableEq, Repr

def Base64Fault.message : Base64Fault → String
  | .badSymbol byte position => s!"Invalid symbol {byte}, offset {position}."
  | .badLength length => s!"Invalid input length: {length}"
  | .badLastSymbol byte position => s!"Invalid last symbol {byte}, offset {position}."
  | .badPadding => "Invalid padding"

inductive PictureFault where
  | bitmap (fault : BitmapFault)
  | badBase64 (fault : Base64Fault)
  /-- Bytes of no known picture format. -/
  | undecodable
  | noPixels
  deriving DecidableEq, Repr

def PictureFault.message : PictureFault → String
  | .bitmap fault => fault.message
  | .badBase64 fault => s!"bad base64: {fault.message}"
  | .undecodable => "cannot decode picture"
  | .noPixels => "image has no pixels"

/-- Why an element cannot be printed. -/
inductive EncodingError where
  | barcodeContent (symbology : Symbology) (content : Text) (fault : BarcodeFault)
  | unsupportedSymbology (name : Text)
  | barcodeTooWide (content : Text) (dots : Nat)
  | pictureTooWide (width dots : Nat)
  | picture (fault : PictureFault)
  | qrContent (fault : QrFault)
  | qrTooLarge (modules dots : Nat)
  deriving DecidableEq, Repr

def EncodingError.message : EncodingError → String
  | .barcodeContent symbology content fault =>
    s!"Invalid {symbology.title} barcode content `{Text.asString content}`: {fault.message}"
  | .unsupportedSymbology name => s!"Unsupported barcode symbology: {Text.asString name}"
  | .barcodeTooWide content dots =>
    s!"Barcode `{Text.asString content}` does not fit in {dots} dots"
  | .pictureTooWide width dots => s!"Image is {width} dots wide, printable area is {dots} dots"
  | .picture fault => s!"Invalid image: {fault.message}"
  | .qrContent fault => s!"Invalid QR code content: {fault.message}"
  | .qrTooLarge modules dots => s!"QR code with {modules} modules does not fit in {dots} dots"

end ReceiptPrinter

import ReceiptPrinter.Markup.Token

/-!
# Writing markup

Every run of text carries its alignment and its style tags, and every block stands on a line of its
own, so that what was read from markup reads back as the same elements.
-/

namespace ReceiptPrinter.Markup

open Number

def fontTag (size : TextSize) : Text := "<font size='".toList ++ size.name ++ "'>".toList

/-- The tags that open `style`; `closeTags` closes them in reverse order. -/
def openTags (style : TextStyle) : Text :=
  (if style.size = .normal then [] else fontTag style.size) ++
    (if style.bold then "<b>".toList else []) ++
    (if style.underline then "<u>".toList else [])

def closeTags (style : TextStyle) : Text :=
  (if style.underline then "</u>".toList else []) ++
    (if style.bold then "</b>".toList else []) ++
    (if style.size = .normal then [] else "</font>".toList)

def printRun (run : TextRun) : Text :=
  alignTag run.align ++ openTags run.style ++ run.content ++ closeTags run.style

def printPicture (p : Picture) : Text :=
  alignTag p.align ++ "<img>".toList ++ p.bitmap.toHex ++ "</img>".toList

def printBarcode (b : Barcode) : Text :=
  let width := match b.width with
    | some width => " width='".toList ++ width.toText ++ ['\'']
    | none => []
  alignTag b.align ++ "<barcode type='".toList ++ b.symbology.name ++ "' height='".toList ++
    b.height.toText ++ ['\''] ++ width ++ " text='".toList ++ b.textPosition.name ++
    "'>".toList ++ b.content ++ "</barcode>".toList

def printQrCode (q : QrCode) : Text :=
  alignTag q.align ++ "<qrcode size='".toList ++ Text.ofNat q.moduleSize.toNat ++ "'>".toList ++
    q.content ++ "</qrcode>".toList

/-- The line of an element that stands on one. -/
def printElement : Element → Text
  | .text run => printRun run
  | .picture p => printPicture p
  | .barcode b => printBarcode b
  | .qrCode q => printQrCode q
  | .feed _ => []

/-- The lines of elements; `current` is a line of text that has not ended. -/
def printLines (current : Option Text) : List Element → List Text
  | [] => current.toList
  | .text run :: rest =>
    let line := current.getD [] ++ printRun run
    if run.endsLine then line :: printLines none rest else printLines (some line) rest
  | .feed n :: rest => current.toList ++ List.replicate n [] ++ printLines none rest
  | e :: rest => current.toList ++ printElement e :: printLines none rest

/-- Writes `elements` as markup. `parse` reads it back, but for what markup cannot say. -/
def serialize (elements : List Element) : Text := Text.join '\n' (printLines none elements)

end ReceiptPrinter.Markup

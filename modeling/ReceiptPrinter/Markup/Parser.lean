import ReceiptPrinter.Markup.Attribute
import ReceiptPrinter.Markup.Line
import ReceiptPrinter.Markup.Token

/-!
# Reading markup

Markup is read line by line. The alignment set by a tag holds until the next one, across lines;
styles are closed, innermost first, on the line that opened them. White space beside a block is
dropped, and blank lines in a row become one feed.
-/

namespace ReceiptPrinter.Markup

open Number

inductive StyleTag where
  | bold
  | underline
  | font (size : TextSize)
  deriving DecidableEq, Repr

namespace StyleTag

def name : StyleTag → Text
  | .bold => "b".toList
  | .underline => "u".toList
  | .font _ => "font".toList

def size? : StyleTag → Option TextSize
  | .font size => some size
  | _ => none

/-- The style inside open tags, the innermost first. -/
def style (tags : List StyleTag) : TextStyle where
  bold := tags.contains .bold
  underline := tags.contains .underline
  size := (tags.findSome? size?).getD .normal

end StyleTag

/-- Names `fragment` as the piece of markup in which a fault was found. -/
def within {α : Type} (fragment : Text) : Except Fault α → Except Error α
  | .ok a => .ok a
  | .error fault => .error ⟨fragment, fault⟩

def orFault {α : Type} (fault : Fault) : Option α → Except Fault α
  | some a => .ok a
  | none => .error fault

def fontSize (attributes : List Attribute) : Except Fault TextSize :=
  attributes.foldlM (fun _ a =>
    if a.key = "size".toList then orFault (.unknownFontSize a.value) (TextSize.ofName? a.value)
    else .error (.unknownAttribute a.key "font".toList)) .normal

/-- The style that the tag `name` opens; only `font` takes attributes. -/
def openStyle (name : Text) (attributes : List Attribute) : Except Fault StyleTag :=
  if name = "b".toList then (rejectAttributes attributes).map fun _ => .bold
  else if name = "u".toList then (rejectAttributes attributes).map fun _ => .underline
  else if name = "font".toList then (fontSize attributes).map .font
  else .error (.unknownTag name)

/-- A finite positive length in millimetres. -/
def positiveLength? (value : Text) : Option Single :=
  (Single.ofText? (Text.trim value)).filter Single.isFinitePositive

def barcodeAttribute (b : Barcode) (a : Attribute) : Except Fault Barcode :=
  if a.key = "type".toList then
    (orFault (.unknownBarcodeType a.value) (Symbology.ofName? a.value)).map
      fun symbology => { b with symbology }
  else if a.key = "height".toList then
    (orFault (.invalidLength a.key a.value) (positiveLength? a.value)).map
      fun height => { b with height }
  else if a.key = "width".toList then
    (orFault (.invalidLength a.key a.value) (positiveLength? a.value)).map
      fun width => { b with width := some width }
  else if a.key = "text".toList then
    (orFault (.unknownTextPosition a.value) (TextPosition.ofName? a.value)).map
      fun textPosition => { b with textPosition }
  else .error (.unknownAttribute a.key BlockKind.barcode.name)

/-- Applies an attribute of a QR code tag to the module size; the last one counts. -/
def qrCodeAttribute (_ : UInt8) (a : Attribute) : Except Fault UInt8 :=
  if a.key = "size".toList then
    (orFault (.invalidQrSize a.value) ((Text.nat? 255 (Text.trim a.value)).filter (0 < ·))).map
      UInt8.ofNat
  else .error (.unknownAttribute a.key BlockKind.qrCode.name)

/-- The element of a block, from its attributes and its content. -/
def blockElement (align : Align) (kind : BlockKind) (attributes : List Attribute)
    (content : Text) : Except Fault Element :=
  match kind with
  | .picture => do
    rejectAttributes attributes
    match Bitmap.ofHex content with
    | .ok bitmap => .ok (.picture { bitmap, align })
    | .error fault => .error (.invalidBitmap fault)
  | .barcode =>
    (attributes.foldlM barcodeAttribute
      { symbology := .ean13, content := Text.trim content, align }).map .barcode
  | .qrCode =>
    (attributes.foldlM qrCodeAttribute QrCode.defaultSize).map
      fun moduleSize => .qrCode { content, moduleSize, align }

/-- What stands on a line. -/
inductive LineItem where
  | text (content : Text) (align : Align) (style : TextStyle)
  | block (element : Element)
  deriving DecidableEq, Repr

namespace LineItem

def isBlock : LineItem → Bool
  | .block _ => true
  | .text .. => false

/-- Whether an item stays beside a block: text of white space only does not. -/
def staysBesideBlock : LineItem → Bool
  | .block _ => true
  | .text content .. => !(Text.trim content).isEmpty

def elements : List LineItem → List Element
  | [] => []
  | .block e :: items => e :: elements items
  | .text content align style :: items =>
    let endsLine := match items with
      | .text .. :: _ => false
      | _ => true
    .text { content, align, style, endsLine } :: elements items

end LineItem

/-- What has been read of a line. -/
structure LineReading where
  items : List LineItem
  align : Align
  /-- Styles still open, the innermost first. -/
  styles : List StyleTag
  deriving DecidableEq, Repr

def LineReading.cons (item : LineItem) (r : LineReading) : LineReading :=
  { r with items := item :: r.items }

/-- The element of a block tag, which may not stand inside a style. -/
def readBlock (align : Align) (styles : List StyleTag) (kind : BlockKind)
    (attributes raw : Text) (content : Option Text) : Except Error Element := do
  let attributes ← within raw (parseAttributes attributes)
  match styles with
  | [] =>
    match content with
    | none => .error ⟨raw, .missingClosing kind.name⟩
    | some content =>
      within (raw ++ content ++ kind.closing) (blockElement align kind attributes content)
  | style :: _ => .error ⟨raw, .nestedBlock kind.name style.name⟩

/-- The items of tokens, read under an alignment and open styles. -/
def readItems (align : Align) (styles : List StyleTag) : List Token → Except Error LineReading
  | [] => .ok ⟨[], align, styles⟩
  | .text content :: rest => do
    let reading ← readItems align styles rest
    return reading.cons (.text content align (StyleTag.style styles))
  | .align a :: rest => readItems a styles rest
  | .closing name raw :: rest =>
    match styles with
    | [] => .error ⟨raw, .nothingToClose⟩
    | style :: styles =>
      if style.name = name then readItems align styles rest
      else .error ⟨raw, .expectedClosing style.name⟩
  | .opening name attributes raw :: rest => do
    let attributes ← within raw (parseAttributes attributes)
    let style ← within raw (openStyle name attributes)
    readItems align (style :: styles) rest
  | .block kind attributes raw content :: rest => do
    let element ← readBlock align styles kind attributes raw content
    let reading ← readItems align styles rest
    return reading.cons (.block element)
  | .unterminated rest :: _ => .error ⟨rest, .unterminatedTag⟩

/-- The elements of a line; an empty line is a feed. -/
def finishLine (items : List LineItem) : List Element :=
  let items := if items.any LineItem.isBlock then items.filter LineItem.staysBesideBlock else items
  if items.isEmpty then [.feed 1] else LineItem.elements items

/-- Reads a line without its line ending, and gives the alignment for the next one. -/
def parseLine (align : Align) (line : Text) : Except Error (Align × List Element) := do
  let reading ← readItems align [] (tokens line)
  match reading.styles with
  | [] => .ok (reading.align, finishLine reading.items)
  | style :: _ => .error ⟨line, .notClosedOnLine style.name⟩

def parseLines (align : Align) : List Text → Except Error (List Element)
  | [] => .ok []
  | line :: rest => do
    let (align, elements) ← parseLine align line
    let following ← parseLines align rest
    return elements ++ following

/-- Feeds in a row become one. -/
def mergeFeeds : List Element → List Element
  | [] => []
  | .feed m :: rest =>
    match mergeFeeds rest with
    | .feed n :: rest => .feed (m + n) :: rest
    | rest => .feed m :: rest
  | e :: rest => e :: mergeFeeds rest

/-- Reads markup line by line, the first one left aligned. -/
def parse (markup : Text) : Except Error (List Element) :=
  (parseLines .left (splitLines markup)).map mergeFeeds

end ReceiptPrinter.Markup

import ReceiptPrinter.Bitmap

/-!
# Markup errors

An error names the piece of markup that is wrong and why it is.
-/

namespace ReceiptPrinter.Markup

/-- Why a piece of markup is wrong. Names and keys are in lower case, values as written. -/
inductive Fault where
  | unterminatedTag
  | unknownTag (name : Text)
  /-- A closing tag while another style is the innermost open one. -/
  | expectedClosing (name : Text)
  | nothingToClose
  | notClosedOnLine (name : Text)
  | nestedBlock (block style : Text)
  | missingClosing (block : Text)
  | malformedAttribute
  | attributeWithoutValue (key : Text)
  | valueNotQuoted (key : Text)
  | unterminatedValue (key : Text)
  | duplicateAttribute (key : Text)
  /-- An attribute on a tag that takes none. -/
  | unexpectedAttribute (key : Text)
  | unknownAttribute (key tag : Text)
  | unknownFontSize (value : Text)
  | unknownBarcodeType (value : Text)
  | unknownTextPosition (value : Text)
  | invalidLength (key value : Text)
  | invalidQrSize (value : Text)
  | invalidBitmap (fault : BitmapFault)
  deriving DecidableEq, Repr

def Fault.message : Fault → String
  | .unterminatedTag => "unterminated tag"
  | .unknownTag name => s!"unknown tag <{Text.asString name}>"
  | .expectedClosing name => s!"expected </{Text.asString name}>"
  | .nothingToClose => "closing tag without an open tag"
  | .notClosedOnLine name => s!"<{Text.asString name}> is not closed on this line"
  | .nestedBlock block style =>
    s!"<{Text.asString block}> cannot be nested inside <{Text.asString style}>"
  | .missingClosing block => s!"missing </{Text.asString block}>"
  | .malformedAttribute => "malformed attribute"
  | .attributeWithoutValue key => s!"attribute '{Text.asString key}' has no value"
  | .valueNotQuoted key => s!"value of '{Text.asString key}' must be quoted"
  | .unterminatedValue key => s!"unterminated value of '{Text.asString key}'"
  | .duplicateAttribute key => s!"duplicate attribute '{Text.asString key}'"
  | .unexpectedAttribute key => s!"unexpected attribute '{Text.asString key}'"
  | .unknownAttribute key tag =>
    s!"unknown attribute '{Text.asString key}' on <{Text.asString tag}>"
  | .unknownFontSize value => s!"unknown font size '{Text.asString value}'"
  | .unknownBarcodeType value => s!"unknown barcode type '{Text.asString value}'"
  | .unknownTextPosition value => s!"unknown text position '{Text.asString value}'"
  | .invalidLength key value => s!"invalid {Text.asString key} '{Text.asString value}'"
  | .invalidQrSize value => s!"invalid qrcode size '{Text.asString value}'"
  | .invalidBitmap fault => s!"Invalid image: {fault.message}"

/-- A `fault` and the piece of markup, `fragment`, that it was found in. -/
structure Error where
  fragment : Text
  fault : Fault
  deriving DecidableEq, Repr

def Error.message (e : Error) : String :=
  s!"Invalid markup at `{Text.asString e.fragment}`: {e.fault.message}"

end ReceiptPrinter.Markup

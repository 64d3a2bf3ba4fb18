import ReceiptPrinter.Json.Record

/-!
# Requests to print directly

A logo, lines of markup, the content of a QR code and a picture, printed as one job.
-/

namespace ReceiptPrinter

/-- What is printed as one job; pictures are Base64 text. -/
structure DirectPrint where
  logo : Option Text := none
  lines : List Text := []
  qrContent : Option Text := none
  picture : Option Text := none
  deriving DecidableEq, Repr

namespace DirectPrint

inductive Field where
  | logo
  | lines
  | qrContent
  | picture
  deriving DecidableEq, Repr

namespace Field

def all : List Field := [logo, lines, qrContent, picture]

/-- The names of a field, the one it is written with first. -/
def names : Field → List Text
  | logo => ["logo".toList]
  | lines => ["lines".toList]
  | qrContent => ["qrData".toList, "dataQr".toList]
  | picture => ["imageBase64".toList, "printBase64".toList]

end Field

/-- Reads an optional text: `null` is an absent one. -/
def readText? : Json → Option (Option Text)
  | .null => some none
  | .string (some s) => some (some s)
  | _ => none

/-- Reads a list of texts. -/
def readTexts? : Json → Option (List Text)
  | .array items => items.mapM fun
    | .string content => content
    | _ => none
  | _ => none

def setField (field : Field) (json : Json) (d : DirectPrint) : Except Unit DirectPrint :=
  (match field with
    | .logo => (readText? json).map fun logo => { d with logo }
    | .lines => (readTexts? json).map fun lines => { d with lines }
    | .qrContent => (readText? json).map fun qrContent => { d with qrContent }
    | .picture => (readText? json).map fun picture => { d with picture }).elim (.error ()) .ok

def record : Json.Record Field DirectPrint Unit where
  fields := Field.all
  names := Field.names
  set := setField
  start := {}
  malformed := ()

def ofJson (s : Text) : Except Unit DirectPrint := record.read s

def fieldText (d : DirectPrint) : Field → Text
  | .logo => d.logo.elim "null".toList Json.quote
  | .lines => Json.writeArray (d.lines.map Json.quote)
  | .qrContent => d.qrContent.elim "null".toList Json.quote
  | .picture => d.picture.elim "null".toList Json.quote

def toJson (d : DirectPrint) : Text :=
  Json.writeObject (Field.all.map fun field => (field.names.headD [], d.fieldText field))

end DirectPrint

end ReceiptPrinter

import ReceiptPrinter.Receipt.Barcode
import ReceiptPrinter.Receipt.Layout
import ReceiptPrinter.Receipt.QrCode

/-!
# Receipts as commands

Elements become segments of commands: one that resets the printer and selects the code page, one
for every printed line and block, one for every band of a picture, and one that leaves the head in
a neutral state and feeds the paper.
-/

namespace ReceiptPrinter

open Number

/-- The segments of a picture, one for every band; its alignment goes with the first band. -/
def Picture.segments (config : Config) (p : Picture) : Except EncodingError (List (List Command)) :=
  if p.bitmap.width > config.printableDots then
    .error (.pictureTooWide p.bitmap.width config.printableDots)
  else
    match Command.rasterBands p.bitmap with
    | [] => .ok [[.align p.align]]
    | band :: bands => .ok ([.align p.align, band] :: bands.map fun band => [band])

namespace Receipt

/-- The segments of an element that is no text. -/
def blockSegments (config : Config) : Element → Except EncodingError (List (List Command))
  | .text run => .ok [Layout.commands config [run]]
  | .picture p => p.segments config
  | .barcode b => (b.commands config).map fun cs => [cs]
  | .qrCode q => (q.commands config).map fun cs => [cs]
  | .feed lines => .ok [Command.feedLines lines]

def pendingSegments (config : Config) (pending : List TextRun) : List (List Command) :=
  if pending.isEmpty then [] else [Layout.commands config pending]

/-- The segments of elements, after the runs `pending` that wait for the end of their line. -/
def bodySegments (config : Config) (pending : List TextRun) :
    List Element → Except EncodingError (List (List Command))
  | [] => .ok (pendingSegments config pending)
  | .text run :: rest =>
    if run.endsLine then do
      let following ← bodySegments config [] rest
      return Layout.commands config (pending ++ [run]) :: following
    else bodySegments config (pending ++ [run]) rest
  | e :: rest => do
    let block ← blockSegments config e
    let following ← bodySegments config [] rest
    return pendingSegments config pending ++ block ++ following

def preamble (config : Config) : List Command := .reset :: config.charset.preamble

/-- The segment after the last element: the head goes left, then the paper by `feedLines`. -/
def terminator (config : Config) (feedLines : Single) : List Command :=
  [.align .left, .lineFeed] ++
    if feedLines.isFinitePositive then Command.feedBy (config.geometry.dotsOfLines feedLines)
    else []

/-- The segments of a receipt with a feed at its end; segments without commands are dropped. -/
def commandSegments (config : Config) (feedLines : Single) (elements : List Element) :
    Except EncodingError (List (List Command)) := do
  let body ← bodySegments config [] elements
  return (preamble config :: body ++ [terminator config feedLines]).filter (!·.isEmpty)

def encodeWithFeed (config : Config) (feedLines : Single) (elements : List Element) :
    Except EncodingError (List (List UInt8)) :=
  (commandSegments config feedLines elements).map (·.map Command.stream)

/-- The bytes of a receipt with the configured feed. -/
def encode (config : Config) (elements : List Element) : Except EncodingError (List (List UInt8)) :=
  encodeWithFeed config config.feedLines elements

/-- What follows a job: the drawer opens, then the paper is cut. -/
def epilogue (config : Config) : List Command :=
  (if config.openDrawer then [.openDrawer] else []) ++ config.cut.commands

end Receipt

end ReceiptPrinter

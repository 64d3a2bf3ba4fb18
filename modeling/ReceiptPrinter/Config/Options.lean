import ReceiptPrinter.CodePage.Basic
import ReceiptPrinter.Config.Target
import ReceiptPrinter.Json.Numeral
import ReceiptPrinter.Json.Record

/-!
# Printer options

Options as a caller gives them: every field may be absent. They are written as JSON and read back
from it; some fields have older names that are still read.
-/

namespace ReceiptPrinter

open Number

/-- What happens to the paper after a job. -/
inductive CutMode where
  | full
  | none
  /-- The paper hangs on by a bridge. -/
  | bridge
  deriving DecidableEq, Repr

namespace CutMode

def code : CutMode → Nat
  | full => 0
  | none => 1
  | bridge => 2

def ofCode? : Nat → Option CutMode
  | 0 => some full
  | 1 => some none
  | 2 => some bridge
  | _ => Option.none

/-- The names of modes in lower case, older ones included. -/
def names : List (Text × CutMode) :=
  [("full".toList, full), ("cut".toList, full), ("cutenabled".toList, full),
    ("none".toList, none), ("nocut".toList, none), ("cutdisabled".toList, none),
    ("partial".toList, bridge)]

/-- The commands of a mode; `none` has none. -/
def commands : CutMode → List Command
  | full => [.cut false]
  | none => []
  | bridge => [.cut true]

end CutMode

namespace Charset

def name : Charset → Text
  | gbk => "gbk".toList
  | windows1252 => "windows1252".toList

def names : List (Text × Charset) := [(gbk.name, gbk), (windows1252.name, windows1252)]

end Charset

/-- Why a text holds no `Options`. -/
inductive OptionsFault where
  | malformed
  | unknownCutCode (code : Nat)
  /-- A name in lower case. -/
  | unknownCutName (name : Text)
  deriving DecidableEq, Repr

def OptionsFault.message : OptionsFault → String
  | .malformed => "malformed options"
  | .unknownCutCode code => s!"unknown cutPaperType {code}"
  | .unknownCutName name => s!"unknown cutPaperType '{Text.asString name}'"

structure Options where
  paperSize : Option UInt32 := none
  dotsPerInch : Option UInt16 := none
  cut : Option CutMode := none
  disconnectAfterPrint : Option Bool := none
  /-- Lines fed after a job. -/
  feedAfterPrint : Option Single := none
  openDrawer : Option Bool := none
  charset : Option Charset := none
  transport : Option TransportKind := none
  address : Option Text := none
  vendor : Option UInt16 := none
  product : Option UInt16 := none
  host : Option Text := none
  port : Option UInt16 := none
  /-- Seconds that a connection may take to open. -/
  timeout : Option UInt64 := none
  deriving DecidableEq, Repr

namespace Options

inductive Field where
  | paperSize
  | dotsPerInch
  | cut
  | disconnectAfterPrint
  | feedAfterPrint
  | openDrawer
  | charset
  | transport
  | address
  | vendor
  | product
  | host
  | port
  | timeout
  deriving DecidableEq, Repr

namespace Field

def all : List Field :=
  [paperSize, dotsPerInch, cut, disconnectAfterPrint, feedAfterPrint, openDrawer, charset,
    transport, address, vendor, product, host, port, timeout]

def name : Field → Text
  | paperSize => "paperSize".toList
  | dotsPerInch => "dotsPerInch".toList
  | cut => "cutPaperType".toList
  | disconnectAfterPrint => "disconnectAfterPrint".toList
  | feedAfterPrint => "feedAfterPrint".toList
  | openDrawer => "isOpenCashDrawer".toList
  | charset => "charset".toList
  | transport => "transport".toList
  | address => "address".toList
  | vendor => "vendorId".toList
  | product => "productId".toList
  | host => "host".toList
  | port => "port".toList
  | timeout => "timeoutSecs".toList

/-- Names that are also read for a field. -/
def olderNames : Field → List Text
  | address => ["btAddress".toList]
  | vendor => ["usbVendorId".toList]
  | product => ["usbProductId".toList]
  | host => ["netIp".toList]
  | _ => []

end Field

/-- Reads an optional value: `null` is an absent one. -/
def optional {α : Type} (read : Json → Except OptionsFault α) :
    Json → Except OptionsFault (Option α)
  | .null => .ok none
  | json => (read json).map some

def orMalformed {α : Type} : Option α → Except OptionsFault α
  | some a => .ok a
  | none => .error .malformed

/-- Reads a whole number of at most `most`. -/
def readNat (most : Nat) : Json → Except OptionsFault Nat
  | .number n => orMalformed (n.toNat? most)
  | _ => .error .malformed

def readBool : Json → Except OptionsFault Bool
  | .bool b => .ok b
  | _ => .error .malformed

def readSingle : Json → Except OptionsFault Single
  | .number n => orMalformed n.toSingle?
  | _ => .error .malformed

def readText : Json → Except OptionsFault Text
  | .string content => orMalformed content
  | _ => .error .malformed

/-- Reads one of `names`: a string, or an object with the name as its only key and no value. -/
def readName {α : Type} (names : List (Text × α)) : Json → Except OptionsFault α
  | .string (some name) => orMalformed (names.lookup name)
  | .object [(some name, .null)] => orMalformed (names.lookup name)
  | _ => .error .malformed

/-- Reads a `CutMode`, by number or by name in any letter case. -/
def readCut : Json → Except OptionsFault CutMode
  | .number n =>
    match n.toNat? 255 with
    | none => .error .malformed
    | some code =>
      match CutMode.ofCode? code with
      | some mode => .ok mode
      | none => .error (.unknownCutCode code)
  | .string (some name) =>
    match CutMode.names.lookup (Text.lower name) with
    | some mode => .ok mode
    | none => .error (.unknownCutName (Text.lower name))
  | _ => .error .malformed

def setField (field : Field) (json : Json) (o : Options) : Except OptionsFault Options :=
  match field with
  | .paperSize =>
    (optional (readNat (UInt32.size - 1)) json).map fun v =>
      { o with paperSize := v.map UInt32.ofNat }
  | .dotsPerInch =>
    (optional (readNat (UInt16.size - 1)) json).map fun v =>
      { o with dotsPerInch := v.map UInt16.ofNat }
  | .cut => (optional readCut json).map fun cut => { o with cut }
  | .disconnectAfterPrint =>
    (optional readBool json).map fun disconnectAfterPrint => { o with disconnectAfterPrint }
  | .feedAfterPrint =>
    (optional readSingle json).map fun feedAfterPrint => { o with feedAfterPrint }
  | .openDrawer => (optional readBool json).map fun openDrawer => { o with openDrawer }
  | .charset =>
    (optional (readName Charset.names) json).map fun charset => { o with charset }
  | .transport =>
    (optional (readName TransportKind.names) json).map fun transport => { o with transport }
  | .address => (optional readText json).map fun address => { o with address }
  | .vendor =>
    (optional (readNat (UInt16.size - 1)) json).map fun v =>
      { o with vendor := v.map UInt16.ofNat }
  | .product =>
    (optional (readNat (UInt16.size - 1)) json).map fun v =>
      { o with product := v.map UInt16.ofNat }
  | .host => (optional readText json).map fun host => { o with host }
  | .port =>
    (optional (readNat (UInt16.size - 1)) json).map fun v => { o with port := v.map UInt16.ofNat }
  | .timeout =>
    (optional (readNat (UInt64.size - 1)) json).map fun v =>
      { o with timeout := v.map UInt64.ofNat }

def record : Json.Record Field Options OptionsFault where
  fields := Field.all
  names field := field.name :: field.olderNames
  set := setField
  start := {}
  malformed := .malformed

def ofJson (s : Text) : Except OptionsFault Options := record.read s

def writeOptional {α : Type} (write : α → Text) : Option α → Text
  | some a => write a
  | none => "null".toList

def writeBool (b : Bool) : Text := if b then "true".toList else "false".toList

def fieldText (o : Options) : Field → Text
  | .paperSize => writeOptional (fun n => Text.ofNat n.toNat) o.paperSize
  | .dotsPerInch => writeOptional (fun n => Text.ofNat n.toNat) o.dotsPerInch
  | .cut => writeOptional (fun mode => Text.ofNat mode.code) o.cut
  | .disconnectAfterPrint => writeOptional writeBool o.disconnectAfterPrint
  | .feedAfterPrint => writeOptional Single.toJson o.feedAfterPrint
  | .openDrawer => writeOptional writeBool o.openDrawer
  | .charset => writeOptional (fun c => Json.quote c.name) o.charset
  | .transport => writeOptional (fun t => Json.quote t.name) o.transport
  | .address => writeOptional Json.quote o.address
  | .vendor => writeOptional (fun n => Text.ofNat n.toNat) o.vendor
  | .product => writeOptional (fun n => Text.ofNat n.toNat) o.product
  | .host => writeOptional Json.quote o.host
  | .port => writeOptional (fun n => Text.ofNat n.toNat) o.port
  | .timeout => writeOptional (fun n => Text.ofNat n.toNat) o.timeout

def toJson (o : Options) : Text :=
  Json.writeObject (Field.all.map fun field => (field.name, o.fieldText field))

end Options

end ReceiptPrinter

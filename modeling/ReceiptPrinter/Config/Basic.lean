import ReceiptPrinter.Config.Options
import ReceiptPrinter.Config.Paper

/-!
# Printer configurations

A configuration is what options come to once defaults are filled in and the printer is identified.
Without an explicit transport the printer is identified by the one kind of identity that is given.
-/

namespace ReceiptPrinter

open Number

/-- Why `Options` give no `Config`. -/
inductive ConfigurationError where
  | missingIdentity
  | ambiguousIdentity
  | invalidAddress (address : Text)
  /-- One of the two USB numbers alone. -/
  | incompleteUsb
  | emptyHost
  | zeroPort
  | invalidOptions (fault : OptionsFault)
  /-- No configuration is installed and one is needed. -/
  | notConfigured
  deriving DecidableEq, Repr

def ConfigurationError.message : ConfigurationError → String
  | .missingIdentity =>
    "Missing printer identity: provide address, vendorId/productId or host"
  | .ambiguousIdentity =>
    "Ambiguous printer identity: more than one of address, vendorId/productId, host"
  | .invalidAddress address =>
    "Invalid printer identity: Bluetooth address '" ++ Text.asString address ++
      "' is not XX:XX:XX:XX:XX:XX"
  | .incompleteUsb =>
    "Invalid printer identity: vendorId and productId must be given together"
  | .emptyHost => "Invalid printer identity: host is empty"
  | .zeroPort => "Invalid printer identity: port must be non-zero"
  | .invalidOptions fault => s!"Invalid options: {fault.message}"
  | .notConfigured => "Printer is not configured"

namespace Options

def defaultPort : UInt16 := 9100

def defaultTimeout : UInt64 := 30

/-- The transport that `o` names, or that of the only identity `o` holds. -/
def transportKind (o : Options) : Except ConfigurationError TransportKind :=
  match o.transport with
  | some kind => .ok kind
  | none =>
    match o.address.isSome, o.vendor.isSome || o.product.isSome, o.host.isSome with
    | false, false, false => .error .missingIdentity
    | true, false, false => .ok .radio
    | false, true, false => .ok .usb
    | false, false, true => .ok .network
    | _, _, _ => .error .ambiguousIdentity

def radioTarget (o : Options) : Except ConfigurationError Target :=
  match o.address with
  | none => .error .missingIdentity
  | some address =>
    if Target.isAddress address then .ok (.radio (Text.upper address))
    else .error (.invalidAddress address)

def usbTarget (o : Options) : Except ConfigurationError Target :=
  match o.vendor, o.product with
  | some vendor, some product => .ok (.usb vendor product)
  | none, none => .error .missingIdentity
  | _, _ => .error .incompleteUsb

def networkTarget (o : Options) : Except ConfigurationError Target :=
  match o.host.map Text.trim with
  | none => .error .missingIdentity
  | some host =>
    let port := o.port.getD defaultPort
    if host.isEmpty then .error .emptyHost
    else if port = 0 then .error .zeroPort
    else .ok (.network host port ((o.timeout.filter (0 < ·)).getD defaultTimeout))

/-- The printer that `o` identifies, checked field by field: the first fault is the answer. -/
def target (o : Options) : Except ConfigurationError Target := do
  match ← o.transportKind with
  | .radio => o.radioTarget
  | .usb => o.usbTarget
  | .network => o.networkTarget

end Options

/-- A printer and how it is to be used; `build` makes it from `Options`. -/
structure Config where
  geometry : Geometry
  cut : CutMode
  openDrawer : Bool
  disconnectAfterPrint : Bool
  /-- Lines fed after a job; finite and not negative. -/
  feedLines : Single
  charset : Charset
  target : Target
  deriving DecidableEq, Repr

namespace Config

/-- The configuration of `o`, with a default for every option left out. -/
def build (o : Options) : Except ConfigurationError Config := do
  let target ← o.target
  return {
    geometry := {
      paper := Paper.ofMillimetres ((o.paperSize.map UInt32.toNat).getD 58)
      density := Density.ofDotsPerInch ((o.dotsPerInch.map UInt16.toNat).getD 203) }
    cut := o.cut.getD .full
    openDrawer := o.openDrawer.getD true
    disconnectAfterPrint := o.disconnectAfterPrint.getD true
    feedLines := (o.feedAfterPrint.filter Single.isFinitePositive).getD Single.zero
    charset := o.charset.getD .gbk
    target }

def ofJson (s : Text) : Except ConfigurationError Config :=
  match Options.ofJson s with
  | .ok o => build o
  | .error fault => .error (.invalidOptions fault)

/-- Dots across the printable area. -/
def printableDots (c : Config) : Nat := c.geometry.printableDots

def columns (c : Config) : Nat := c.geometry.columns

end Config

end ReceiptPrinter

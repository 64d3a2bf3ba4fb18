import ReceiptPrinter.Device.Access
import ReceiptPrinter.Text.Capitals

/-!
# The broker of a host

The broker finds the node of a printer in what its host shows: a radio printer by the table of bound
devices, whose lines are `name: address ...`, and a USB printer by the numbers of each listed
device. A node is granted when it opens for writing.
-/

namespace ReceiptPrinter

/-- A device in the list of USB printers, with the texts of `idVendor` and `idProduct`. -/
structure UsbEntry where
  name : Text
  vendor : Option Text := none
  product : Option Text := none
  deriving DecidableEq, Repr

/-- The number in the text of a USB entry, which is hexadecimal with white space around it. -/
def UsbEntry.number? (field : Option Text) : Option UInt16 :=
  field.bind fun text => Text.hexWord? (Text.trim text)

def UsbEntry.isPrinter (entry : UsbEntry) (vendor product : UInt16) : Bool :=
  "lp".toList.isPrefixOf entry.name && UsbEntry.number? entry.vendor == some vendor &&
    UsbEntry.number? entry.product == some product

structure BrokerPaths where
  radioTable : Text := "/proc/net/rfcomm".toList
  radioFolder : Text := "/dev".toList
  usbListing : Text := "/sys/class/usbmisc".toList
  usbFolder : Text := "/dev/usb".toList
  deriving DecidableEq, Repr

/-- What a host shows of its devices. `nodes` is what opens, whatever the tables say. -/
structure Broker where
  paths : BrokerPaths := {}
  /-- The table of bound radio devices. -/
  radioTable : Option Text := none
  /-- The list of USB printers. -/
  usbListing : Option (List UsbEntry) := none
  nodes : NodeTree := {}
  deriving DecidableEq, Repr

namespace Broker

/-- The lines of a table without their ends. A last line without an end counts unless it is empty.
-/
def tableLines (table : Text) : List Text :=
  let pieces := Text.splitOn '\n' table
  pieces.dropLast.map Text.chomp ++ (pieces.getLast?.toList.filter fun rest => !rest.isEmpty)

def boundName (line : Text) : Text := Text.trim (line.takeWhile (· ≠ ':'))

/-- The node that the table binds to `address`: that of the first line with the address anywhere in
it, both in capitals. -/
def radioPath (b : Broker) (address : Text) : Except AccessFault Text :=
  match b.radioTable with
  | none => .error (.noTable b.paths.radioTable)
  | some table =>
    let wanted := Text.capitals address
    match (tableLines table).find? fun line => Text.contains wanted (Text.capitals line) with
    | some line => .ok (joinPath b.paths.radioFolder (boundName line))
    | none => .error (.unbound wanted)

/-- The node of the first listed entry that `isPrinter`. -/
def usbPath (b : Broker) (vendor product : UInt16) : Except AccessFault Text :=
  match b.usbListing with
  | none => .error (.noListing b.paths.usbListing)
  | some entries =>
    match entries.find? fun entry => entry.isPrinter vendor product with
    | some entry => .ok (joinPath b.paths.usbFolder entry.name)
    | none => .error (.noPrinter vendor product)

/-- The path of a printer's node, before it is opened. -/
def nodePath (b : Broker) : Target → Except AccessFault Text
  | .radio address => b.radioPath address
  | .usb vendor product => b.usbPath vendor product
  | .network .. => .error .networkPrinter

def requestAccess (b : Broker) (target : Target) : Except AccessFault Text := do
  let path ← b.nodePath target
  match b.nodes.openPath path with
  | .ok _ => return path
  | .error fault => throw (.closed path fault)

end Broker

end ReceiptPrinter

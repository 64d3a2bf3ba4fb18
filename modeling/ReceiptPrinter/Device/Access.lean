import ReceiptPrinter.Config.Target
import ReceiptPrinter.Device.Node

/-!
# Access to devices

A radio or USB printer is opened only at a node that the host grants. Here are the reasons for which
a host grants none, and what they mean for a connection.
-/

namespace ReceiptPrinter

inductive AccessDenied where
  /-- The host refuses access. -/
  | refused (reason : String)
  /-- The host has no such device. -/
  | notFound (reason : String)
  deriving DecidableEq, Repr

namespace AccessDenied

def message : AccessDenied → String
  | refused reason => s!"Access refused: {reason}"
  | notFound reason => s!"Device not found: {reason}"

def connectionError : AccessDenied → ConnectionError
  | refused reason => ⟨.permissionDenied, reason⟩
  | notFound reason => .unavailable reason

end AccessDenied

inductive AccessFault where
  /-- The table of bound radio devices is missing. -/
  | noTable (path : Text)
  /-- No line of the table names the address. -/
  | unbound (address : Text)
  /-- The list of USB printers is missing. -/
  | noListing (path : Text)
  /-- No USB printer has the two numbers. -/
  | noPrinter (vendor product : UInt16)
  /-- Network printers are not asked for. -/
  | networkPrinter
  /-- The node does not open. -/
  | closed (path : Text) (fault : OpenFault)
  deriving DecidableEq, Repr

/-- What a caller is told: a missing device is not found, all else is refused. -/
def AccessFault.denied : AccessFault → AccessDenied
  | noTable path => .refused s!"cannot read {path.asString}: {OpenFault.missing.numberedText}"
  | unbound address => .refused
      s!"{address.asString} is not bound to an RFCOMM device (pair it and run `rfcomm bind`)"
  | noListing path => .notFound s!"cannot list {path.asString}: {OpenFault.missing.numberedText}"
  | noPrinter vendor product => .notFound
      s!"no usblp device with id {(Text.hexWord vendor).asString}:{(Text.hexWord product).asString}"
  | networkPrinter => .refused "network printers need no device access"
  | closed path fault =>
    match fault.kind with
    | .permissionDenied => .refused s!"no write permission on {path.asString}"
    | .notFound => .notFound s!"{path.asString} does not exist"
    | _ => .refused s!"cannot open {path.asString}: {fault.numberedText}"

end ReceiptPrinter

import ReceiptPrinter.Text.HexWord

/-!
# Printers and how they are reached

A printer is a Bluetooth device with an address, a USB device with a vendor and a product number, or
a network host with a port.
-/

namespace ReceiptPrinter

/-- How a printer is reached. -/
inductive TransportKind where
  | radio
  | usb
  | network
  deriving DecidableEq, Repr

namespace TransportKind

def name : TransportKind → Text
  | radio => "radio".toList
  | usb => "usb".toList
  | network => "network".toList

/-- All accepted names of a transport. -/
def names : List (Text × TransportKind) :=
  [("radio".toList, radio), ("bluetooth".toList, radio), ("usb".toList, usb),
    ("network".toList, network), ("tcp".toList, network)]

end TransportKind

inductive Target where
  | radio (address : Text)
  | usb (vendor product : UInt16)
  /-- A host, with the seconds a connection may take to open. -/
  | network (host : Text) (port : UInt16) (timeout : UInt64)
  deriving DecidableEq, Repr

namespace Target

def kind : Target → TransportKind
  | radio _ => .radio
  | usb .. => .usb
  | network .. => .network

def name : Target → Text
  | radio address => "radio:".toList ++ address
  | usb vendor product => "usb:".toList ++ Text.hexWord vendor ++ ':' :: Text.hexWord product
  | network host port _ => "tcp:".toList ++ host ++ ':' :: Text.ofNat port.toNat

/-- Whether two targets are one device. Timeouts and the letter case of addresses do not matter;
hosts are compared as they are written. -/
def sameDevice : Target → Target → Bool
  | radio a, radio b => Text.sameLetters a b
  | usb v p, usb v' p' => v == v' && p == p'
  | network h p _, network h' p' _ => h == h' && p == p'
  | _, _ => false

/-- Whether `s` is six pairs of hexadecimal digits between colons. -/
def isAddress (s : Text) : Bool :=
  let groups := Text.splitOn ':' s
  groups.length == 6 && groups.all fun g => g.length == 2 && g.all Text.isHexDigit

end Target

end ReceiptPrinter

import ReceiptPrinter.Device.Host

/-!
# Devices

A device is a printer as its host reaches it: over a granted node, or over the network. It is closed
when it is made; opening an open device and closing a closed one change nothing.
-/

namespace ReceiptPrinter

/-- What an open device is written through. -/
inductive Handle where
  /-- A node, with the offset of the next byte. -/
  | node (place : Place) (offset : Nat)
  /-- A network connection, with the bytes sent. -/
  | stream (sent : List UInt8)
  deriving DecidableEq, Repr

/-- A printer as its host reaches it. -/
structure Device where
  target : Target
  handle : Option Handle := none
  deriving DecidableEq, Repr

namespace Device

def describe (d : Device) : Text :=
  match d.target with
  | .radio address => "radio://".toList ++ address
  | .usb vendor product =>
    "usb://".toList ++ Text.hexWord vendor ++ ':' :: Text.hexWord product
  | .network host port _ => "tcp://".toList ++ host ++ ':' :: Text.ofNat port.toNat

/-- The name of the device in error texts. -/
def label (d : Device) : Text :=
  match d.target with
  | .radio address => "radio ".toList ++ address
  | .usb .. => d.describe
  | .network host port _ => host ++ ':' :: Text.ofNat port.toNat

def isConnected (d : Device) : Bool := d.handle.isSome

/-- A handle to the printer. A USB node that was renumbered after it was granted is asked for once
more. -/
def openHandle (target : Target) (host : Host) : Except ConnectionError Handle × Host :=
  match target with
  | .radio _ =>
    let (result, host) := host.openSerial
    (result.map (.node · 0), host)
  | .usb .. =>
    let (result, host) := host.openGranted 1
    (result.map (.node · 0), host)
  | .network name port _ =>
    match host.network.dial name port with
    | .ok () => (.ok (.stream []), host)
    | .error e => (.error (.ofSystem e), host)

def connect (d : Device) (host : Host) : Except ConnectionError Unit × Device × Host :=
  if d.isConnected then (.ok (), d, host)
  else
    match openHandle d.target host with
    | (.ok handle, host) => (.ok (), { d with handle := some handle }, host)
    | (.error e, host) => (.error e, d, host)

/-- The handle of an open device; an error on one that was never opened or is closed. -/
def openedHandle (d : Device) : Except ConnectionError Handle :=
  match d.handle with
  | some handle => .ok handle
  | none => .error (.unavailable s!"{d.label.asString} is not connected")

def write (d : Device) (host : Host) (bytes : List UInt8) :
    Except ConnectionError Unit × Device × Host :=
  match d.openedHandle with
  | .error e => (.error e, d, host)
  | .ok (.node place offset) =>
    (.ok (), { d with handle := some (.node place (offset + bytes.length)) },
      { host with nodes := host.nodes.write place offset bytes })
  | .ok (.stream sent) => (.ok (), { d with handle := some (.stream (sent ++ bytes)) }, host)

/-- Nothing written is held back, so a flush has nothing to do. -/
def flush (d : Device) : Except ConnectionError Unit := d.openedHandle.map fun _ => ()

def disconnect (d : Device) (host : Host) : Device × Host :=
  match d.handle with
  | some (.stream sent) =>
    ({ d with handle := none },
      { host with
        network := { host.network with received := host.network.received ++ [sent] } })
  | _ => ({ d with handle := none }, host)

end Device

end ReceiptPrinter

import ReceiptPrinter.Config.Target
import ReceiptPrinter.Link.Error

/-!
# A printer in memory

A link stands for everything behind the channels to printers: it records what arrives and lets
operations fail or take time. An operation that takes time is split: its delay is read when it
starts, its faults are looked at when it ends.
-/

namespace ReceiptPrinter

/-- Bytes that arrived together over a channel. -/
structure Delivery where
  /-- The number of the channel. -/
  channel : Nat
  bytes : List UInt8
  deriving DecidableEq, Repr

/-- Everything behind the channels. Times are in milliseconds. -/
structure Link where
  /-- What arrived, in order. -/
  deliveries : List Delivery := []
  /-- The printer of every channel made, in order; a channel has the number of its place. -/
  targets : List Target := []
  connects : Nat := 0
  disconnects : Nat := 0
  openHandles : Nat := 0
  /-- The error of the next connect. -/
  connectFault : Option ConnectionError := none
  /-- The error of every write. -/
  writeFault : Option ConnectionError := none
  /-- The error of every flush. -/
  flushFault : Option ConnectionError := none
  connectDelay : Nat := 0
  writeDelay : Nat := 0
  flushDelay : Nat := 0
  /-- Whether open channels say that they are closed. -/
  lost : Bool := false
  deriving DecidableEq, Repr

structure Channel where
  number : Nat
  isOpen : Bool := false
  deriving DecidableEq, Repr

inductive LinkChange where
  | failNextConnect (e : ConnectionError)
  | failWrites (e : ConnectionError)
  | failFlush (e : ConnectionError)
  | clearFaults
  | connectDelay (ms : Nat)
  | writeDelay (ms : Nat)
  | flushDelay (ms : Nat)
  | lose (on : Bool)
  deriving DecidableEq, Repr

namespace Link

def change (link : Link) : LinkChange → Link
  | .failNextConnect e => { link with connectFault := some e }
  | .failWrites e => { link with writeFault := some e }
  | .failFlush e => { link with flushFault := some e }
  | .clearFaults => { link with connectFault := none, writeFault := none, flushFault := none }
  | .connectDelay ms => { link with connectDelay := ms }
  | .writeDelay ms => { link with writeDelay := ms }
  | .flushDelay ms => { link with flushDelay := ms }
  | .lose on => { link with lost := on }

/-- Makes a channel to `target`, which gets the next number. -/
def makeChannel (link : Link) (target : Target) : Channel × Link :=
  ({ number := link.targets.length }, { link with targets := link.targets ++ [target] })

def finishConnect (link : Link) (channel : Channel) :
    Except ConnectionError Unit × Channel × Link :=
  match link.connectFault with
  | some e => (.error e, channel, { link with connectFault := none })
  | none =>
    (.ok (), { channel with isOpen := true },
      { link with
        connects := link.connects + 1
        openHandles := if channel.isOpen then link.openHandles else link.openHandles + 1 })

/-- Whether a write over `channel` may start: only while it is open. -/
def startWrite (channel : Channel) : Except ConnectionError Unit :=
  if channel.isOpen then .ok () else .error (.unavailable "memory transport is closed")

def finishWrite (link : Link) (channel : Channel) (bytes : List UInt8) :
    Except ConnectionError Unit × Link :=
  match link.writeFault with
  | some e => (.error e, link)
  | none => (.ok (), { link with deliveries := link.deliveries ++ [⟨channel.number, bytes⟩] })

def finishFlush (link : Link) : Except ConnectionError Unit :=
  match link.flushFault with
  | some e => .error e
  | none => .ok ()

/-- Closes `channel`; a closed one stays as it is. -/
def disconnect (link : Link) (channel : Channel) : Channel × Link :=
  if channel.isOpen then
    ({ channel with isOpen := false },
      { link with disconnects := link.disconnects + 1, openHandles := link.openHandles - 1 })
  else (channel, link)

/-- Whether `channel` says that it is open. A `lost` link lets no channel say so. -/
def isConnected (link : Link) (channel : Channel) : Bool := channel.isOpen && !link.lost

end Link

end ReceiptPrinter

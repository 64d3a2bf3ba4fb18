import ReceiptPrinter.Link.Memory

/-!
# Connections

A connection holds at most one channel. Opening it closes the old channel and makes a new one; an
error on a write or a flush closes the channel and leaves the connection faulted. Writes and flushes
have a deadline: one that takes no longer than it still succeeds, a longer one is given up when the
deadline is over.
-/

namespace ReceiptPrinter

inductive ConnectionState where
  | disconnected
  | connecting
  | connected
  | faulted
  deriving DecidableEq, Repr

def ConnectionState.name : ConnectionState → String
  | disconnected => "disconnected"
  | connecting => "connecting"
  | connected => "connected"
  | faulted => "faulted"

/-- A connection to a printer and the `channel` it holds. -/
structure Connection where
  /-- Milliseconds that a write or a flush may take. -/
  deadline : Nat
  /-- The open channel. -/
  channel : Option Channel := none
  /-- The printer of the last opening that was not closed. -/
  target : Option Target := none
  state : ConnectionState := .disconnected
  deriving DecidableEq, Repr

/-- A write or flush on its way: it takes `wait` and then ends, or is given up if `late`. -/
structure Flight where
  /-- Milliseconds until its end. -/
  wait : Nat
  /-- Whether it is given up then. -/
  late : Bool
  deriving DecidableEq, Repr

namespace Connection

/-- Whether the connection is open and its channel says so too. -/
def isConnected (c : Connection) (link : Link) : Bool :=
  c.state == .connected && c.channel.any link.isConnected

/-- Closes the channel held, if any. -/
def dropChannel (c : Connection) (link : Link) : Link :=
  match c.channel with
  | some channel => (link.disconnect channel).2
  | none => link

def close (c : Connection) (link : Link) : Connection × Link :=
  ({ c with channel := none, target := none, state := .disconnected }, c.dropChannel link)

/-- Closes the connection and starts to open it to `target`; the new channel takes
`link.connectDelay` to connect. -/
def startOpen (c : Connection) (link : Link) (target : Target) : Channel × Connection × Link :=
  let (c, link) := c.close link
  let (channel, link) := link.makeChannel target
  (channel, { c with target := some target, state := .connecting }, link)

/-- Ends an opening: the connection holds `channel`, or is faulted with its `target` kept. -/
def finishOpen (c : Connection) (link : Link) (channel : Channel) :
    Except ConnectionError Unit × Connection × Link :=
  match link.finishConnect channel with
  | (.ok (), channel, link) =>
    (.ok (), { c with channel := some channel, state := .connected }, link)
  | (.error e, channel, link) =>
    (.error e, { c with state := .faulted }, (link.disconnect channel).2)

/-- The channel of an open connection; the error of any other. -/
def liveChannel (c : Connection) : Except ConnectionError Channel :=
  if c.state = .connected then
    match c.channel with
    | some channel => .ok channel
    | none => .error (.unavailable "no open channel")
  else .error (.unavailable s!"connection is {c.state.name}")

/-- An operation of `delay` milliseconds under the deadline. One that takes exactly the deadline is
in time. -/
def flight (c : Connection) (delay : Nat) : Flight := ⟨min delay c.deadline, c.deadline < delay⟩

def startWrite (c : Connection) (link : Link) : Except ConnectionError Flight := do
  let channel ← c.liveChannel
  Link.startWrite channel
  return c.flight link.writeDelay

def startFlush (c : Connection) (link : Link) : Except ConnectionError Flight := do
  let _ ← c.liveChannel
  return c.flight link.flushDelay

/-- What an error does: the channel is closed and the connection faulted. -/
def fault (c : Connection) (link : Link) : Connection × Link :=
  ({ c with channel := none, state := .faulted }, c.dropChannel link)

/-- Passes `result` on, after `fault` if it is an error. -/
def settle (c : Connection) (link : Link) (result : Except ConnectionError Unit) :
    Except ConnectionError Unit × Connection × Link :=
  match result with
  | .ok () => (.ok (), c, link)
  | .error e => (.error e, c.fault link)

def finishWrite (c : Connection) (link : Link) (bytes : List UInt8) (late : Bool) :
    Except ConnectionError Unit × Connection × Link :=
  if late then
    c.settle link (.error ⟨.timeout,
      s!"write of {bytes.length} bytes did not finish within {durationText c.deadline}"⟩)
  else
    match c.liveChannel with
    | .error e => c.settle link (.error e)
    | .ok channel =>
      let (result, link) := link.finishWrite channel bytes
      c.settle link result

def finishFlush (c : Connection) (link : Link) (late : Bool) :
    Except ConnectionError Unit × Connection × Link :=
  if late then
    c.settle link (.error ⟨.timeout,
      s!"flush did not finish within {durationText c.deadline}"⟩)
  else c.settle link link.finishFlush

/-- What an operation comes to: its result, what it leaves, and the milliseconds it took. -/
structure Outcome where
  result : Except ConnectionError Unit
  connection : Connection
  link : Link
  elapsed : Nat

/-- Opens the connection to `target`, start and end at once. -/
def openTo (c : Connection) (link : Link) (target : Target) : Outcome :=
  let (channel, c, link) := c.startOpen link target
  let (result, c, after) := c.finishOpen link channel
  ⟨result, c, after, link.connectDelay⟩

def write (c : Connection) (link : Link) (bytes : List UInt8) : Outcome :=
  match c.startWrite link with
  | .error e =>
    let (result, c, link) := c.settle link (.error e)
    ⟨result, c, link, 0⟩
  | .ok flight =>
    let (result, c, link) := c.finishWrite link bytes flight.late
    ⟨result, c, link, flight.wait⟩

def flush (c : Connection) (link : Link) : Outcome :=
  match c.startFlush link with
  | .error e =>
    let (result, c, link) := c.settle link (.error e)
    ⟨result, c, link, 0⟩
  | .ok flight =>
    let (result, c, link) := c.finishFlush link flight.late
    ⟨result, c, link, flight.wait⟩

end Connection

end ReceiptPrinter

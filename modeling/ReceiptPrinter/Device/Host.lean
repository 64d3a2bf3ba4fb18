import ReceiptPrinter.Device.Access

/-!
# The host around a printer

What a host offers to the printers that are reached through it: answers to requests for access,
device nodes, and a network.
-/

namespace ReceiptPrinter

/-- The network of a host. -/
structure Network where
  /-- Whether packets find a way at all. -/
  isUp : Bool := false
  /-- The endpoints that accept connections. -/
  listening : List (Text × UInt16) := []
  /-- The bytes of each connection that was closed, in order. -/
  received : List (List UInt8) := []
  deriving DecidableEq, Repr

def Network.dial (network : Network) (host : Text) (port : UInt16) : Except SystemError Unit :=
  if !network.isUp then .error ⟨.other, "Network is unreachable (os error 101)"⟩
  else if network.listening.contains (host, port) then .ok ()
  else .error ⟨.connectionRefused, "Connection refused (os error 111)"⟩

structure Host where
  /-- The paths that the coming requests for access are answered with. -/
  answers : List (Except AccessDenied Text) := []
  nodes : NodeTree := {}
  network : Network := {}

namespace Host

/-- Takes the next of the `answers`. -/
def requestAccess (host : Host) : Except AccessDenied Text × Host :=
  match host.answers with
  | [] => (.error (.notFound "no more grants"), host)
  | answer :: rest => (answer, { host with answers := rest })

/-- Opens the node that is granted. One that is gone by then is asked for `again` times. -/
def openGranted (host : Host) (again : Nat) : Except ConnectionError Place × Host :=
  match host.requestAccess with
  | (.error denied, host) => (.error denied.connectionError, host)
  | (.ok path, host) =>
    match host.nodes.openPath path with
    | .ok place => (.ok place, host)
    | .error fault =>
      match fault.kind, again with
      | .notFound, again + 1 => host.openGranted again
      | kind, _ => (.error (.ofSystem ⟨kind, fault.numberedText⟩), host)

def openSerial (host : Host) : Except ConnectionError Place × Host :=
  match host.requestAccess with
  | (.error denied, host) => (.error denied.connectionError, host)
  | (.ok path, host) =>
    match host.nodes.openPath path with
    | .error fault => (.error (.ofSystem ⟨fault.kind, fault.text⟩), host)
    | .ok place =>
      match host.nodes.node? place with
      | some (.serial _) => (.ok place, host)
      | _ => (.error (.ofSystem ⟨.other, "Not a typewriter"⟩), host)

end Host

end ReceiptPrinter

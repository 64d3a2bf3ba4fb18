import ReceiptPrinter.Receipt.Encode
import ReceiptPrinter.Spooler.Error

/-!
# Print jobs

A job keeps the configuration it was accepted under. It is either started or cancelled, whichever
comes first, and has at most one outcome.
-/

namespace ReceiptPrinter

open Number

inductive JobBody where
  /-- Elements with a feed at their end; without one the configured feed applies. -/
  | elements (elements : List Element) (feed : Option Single)
  /-- Bytes as they are. -/
  | raw (bytes : List UInt8)
  deriving DecidableEq, Repr

inductive JobPhase where
  | queued
  | started
  | cancelled
  deriving DecidableEq, Repr

/-- A job that was accepted, with the configuration at the time. -/
structure Job where
  body : JobBody
  /-- The configuration at the time. -/
  config : Config
  phase : JobPhase := .queued
  outcome : Option (Except PrintError Unit) := none

namespace Job

/-- Cancels a job that waits in the queue; whether it did comes first. -/
def cancel (j : Job) : Bool × Job :=
  match j.phase with
  | .queued => (true, { j with phase := .cancelled })
  | _ => (false, j)

/-- Starts a job that waits in the queue; whether it did comes first. -/
def start (j : Job) : Bool × Job :=
  match j.phase with
  | .queued => (true, { j with phase := .started })
  | _ => (false, j)

/-- The segments of a body under `config`. Elements have the `epilogue` as a last segment, unless it
is empty. -/
def bodySegments (config : Config) : JobBody → Except EncodingError (List (List UInt8))
  | .elements es feed => do
    let segments ← Receipt.encodeWithFeed config (feed.getD config.feedLines) es
    let last := Command.stream (Receipt.epilogue config)
    return if last.isEmpty then segments else segments ++ [last]
  | .raw bytes => .ok [bytes]

def segments (j : Job) : Except EncodingError (List (List UInt8)) := bodySegments j.config j.body

end Job

end ReceiptPrinter

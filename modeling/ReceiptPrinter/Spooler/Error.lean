import ReceiptPrinter.Config.Basic
import ReceiptPrinter.Link.Error
import ReceiptPrinter.Markup.Error
import ReceiptPrinter.Receipt.Error

/-!
# Stages of a spooler and errors of printing

Errors of input are found before anything reaches the printer and leave the stage of the spooler as
it is.
-/

namespace ReceiptPrinter

/-- Where a spooler stands; only `ready` and `printing` accept jobs. -/
inductive Stage where
  | idle
  | connecting
  | ready
  | printing
  | faulted
  deriving DecidableEq, Repr

namespace Stage

def name : Stage → String
  | idle => "idle"
  | connecting => "connecting"
  | ready => "ready"
  | printing => "printing"
  | faulted => "faulted"

def acceptsJobs : Stage → Bool
  | ready | printing => true
  | _ => false

end Stage

/-- Why an operation of a spooler failed. -/
inductive PrintError where
  | configuration (e : ConfigurationError)
  | markup (e : Markup.Error)
  | encoding (e : EncodingError)
  | connection (e : ConnectionError)
  /-- A connection is already being opened. -/
  | alreadyInProgress
  | notReady (stage : Stage)
  /-- The job was cancelled before it started. -/
  | cancelled
  /-- The spooler has stopped. -/
  | closed
  deriving DecidableEq, Repr

namespace PrintError

def message : PrintError → String
  | configuration e => e.message
  | markup e => e.message
  | encoding e => e.message
  | connection e => e.message
  | alreadyInProgress => "Connection attempt already in progress"
  | notReady stage => s!"Printer not ready (state: {stage.name})"
  | cancelled => "Job cancelled before it started"
  | closed => "Printer executor is closed"

/-- Whether the input is at fault, and not the printer or the moment. -/
def isInputError : PrintError → Bool
  | configuration _ | markup _ | encoding _ => true
  | _ => false

end PrintError

end ReceiptPrinter

import ReceiptPrinter.Link.Connection
import ReceiptPrinter.Markup.Buffer
import ReceiptPrinter.Spooler.Job

/-!
# Spoolers

A spooler serves one printer. Callers put requests into a queue; one worker takes them out in order
and owns the connection. Stage, configuration and append buffer are shared between them. A caller
that waits for an answer holds a ticket; a job has a number.
-/

namespace ReceiptPrinter

abbrev PrintResult := Except PrintError Unit

inductive Request where
  | configure (config : Config) (ticket : Nat)
  | connect (config : Config) (ticket : Nat)
  | print (job : Nat)
  | disconnect (ticket : Nat)
  deriving DecidableEq, Repr

/-- What the worker does; `due` is the time at which it goes on. -/
inductive Activity where
  /-- Between two requests. -/
  | waiting
  | opening (ticket : Nat) (channel : Channel) (due : Nat)
  /-- Writing a segment of a job, with the segments after it. -/
  | writing (job : Nat) (segment : List UInt8) (rest : List (List UInt8)) (due : Nat) (late : Bool)
  | flushing (job : Nat) (due : Nat) (late : Bool)
  /-- Letting the printer empty its buffer. -/
  | draining (job : Nat) (due : Nat)
  | stopped
  deriving DecidableEq, Repr

/-- A spooler and everything it sees, the printer's `link` and the clock `now` included. -/
structure Spooler where
  drainDelay : Nat
  connection : Connection
  now : Nat := 0
  stage : Stage := .idle
  /-- The stages entered, in order. -/
  transitions : List Stage := []
  config : Option Config := none
  buffer : Markup.Buffer := {}
  queue : List Request := []
  /-- All jobs accepted; a job has the number of its place. -/
  jobs : List Job := []
  /-- The answers to tickets as far as they are given; a ticket is a place. -/
  tickets : List (Option PrintResult) := []
  activity : Activity := .waiting
  link : Link := {}
  /-- Whether the worker was asked to stop. -/
  shutdown : Bool := false

namespace Spooler

/-- A spooler at rest: nothing configured, nothing queued. -/
def start (writeDeadline drainDelay : Nat) : Spooler :=
  { drainDelay, connection := { deadline := writeDeadline } }

/-- Enters `stage`; staying in one is no transition. -/
def enter (s : Spooler) (stage : Stage) : Spooler :=
  if s.stage = stage then s else { s with stage, transitions := s.transitions ++ [stage] }

/-- Whether the worker has stopped, so that nothing is taken from the queue any more. -/
def isClosed (s : Spooler) : Bool := s.activity == .stopped

def push (s : Spooler) (request : Request) : Spooler := { s with queue := s.queue ++ [request] }

def answer (s : Spooler) (ticket : Nat) (result : PrintResult) : Spooler :=
  { s with tickets := s.tickets.set ticket (some result) }

def updateJob (s : Spooler) (job : Nat) (f : Job → Job) : Spooler :=
  { s with jobs := s.jobs.modify job f }

def finishJob (s : Spooler) (job : Nat) (result : PrintResult) : Spooler :=
  s.updateJob job fun j => { j with outcome := some result }

def closeConnection (s : Spooler) : Spooler :=
  let (connection, link) := s.connection.close s.link
  { s with connection, link }

def changeLink (s : Spooler) (c : LinkChange) : Spooler := { s with link := s.link.change c }

def advance (s : Spooler) (ms : Nat) : Spooler := { s with now := s.now + ms }

end Spooler

end ReceiptPrinter

import ReceiptPrinter.Spooler.Basic

/-!
# The worker

The worker takes one request at a time and finishes it before the next. A job is encoded before its
first byte is sent, is refused unless the connection is open, and leaves the spooler ready or
faulted. The worker stops only between two requests; what is still queued then fails.
-/

namespace ReceiptPrinter.Spooler

def completeJob (s : Spooler) (job : Nat) : Spooler :=
  ({ s with activity := .waiting }.enter .ready).finishJob job (.ok ())

def failJob (s : Spooler) (job : Nat) (e : ConnectionError) : Spooler :=
  ({ s with activity := .waiting }.enter .faulted).finishJob job (.error (.connection e))

/-- Faults the connection and ends the job that was being printed. -/
def faultJob (s : Spooler) (job : Nat) (e : ConnectionError) : Spooler :=
  let (connection, link) := s.connection.fault s.link
  { s with connection, link }.failJob job e

/-- Whether the job ends by flushing and waiting, as `disconnectAfterPrint` asks. -/
def drains (s : Spooler) (job : Nat) : Bool :=
  (s.jobs[job]?).any fun j => j.config.disconnectAfterPrint

/-- Goes on with a job: writes its next segment, or ends it after the last one. -/
def continueJob (s : Spooler) (job : Nat) : List (List UInt8) → Spooler
  | segment :: rest =>
    match s.connection.startWrite s.link with
    | .error e => s.faultJob job e
    | .ok flight =>
      { s with activity := .writing job segment rest (s.now + flight.wait) flight.late }
  | [] =>
    if s.drains job then
      match s.connection.startFlush s.link with
      | .error e => s.faultJob job e
      | .ok flight => { s with activity := .flushing job (s.now + flight.wait) flight.late }
    else s.completeJob job

/-- Starts a job taken from the queue. It is encoded before the connection is looked at. -/
def runJob (s : Spooler) (job : Nat) (j : Job) : Spooler :=
  match j.start with
  | (false, _) => s.finishJob job (.error .cancelled)
  | (true, j) =>
    let s := s.updateJob job fun _ => j
    match j.segments with
    | .error e => s.finishJob job (.error (.encoding e))
    | .ok segments =>
      if s.stage.acceptsJobs && s.connection.isConnected s.link then
        (s.enter .printing).continueJob job segments
      else s.finishJob job (.error (.notReady s.stage))

/-- Drops a connection to another device than the one of `config`. -/
def dropStale (s : Spooler) (config : Config) : Spooler :=
  if s.connection.target.any fun target => !target.sameDevice config.target then
    s.closeConnection.enter .idle
  else s

/-- Starts to open the connection to the printer of `config`. -/
def startConnect (s : Spooler) (config : Config) (ticket : Nat) : Spooler :=
  let (channel, connection, link) := s.connection.startOpen s.link config.target
  { s with connection, link, activity := .opening ticket channel (s.now + link.connectDelay) }

def finishConnect (s : Spooler) (ticket : Nat) (channel : Channel) : Spooler :=
  let (result, connection, link) := s.connection.finishOpen s.link channel
  let s := { s with connection, link, activity := .waiting }
  match result with
  | .ok () => (s.enter .ready).answer ticket (.ok ())
  | .error e => (s.enter .faulted).answer ticket (.error (.connection e))

def handle (s : Spooler) : Request → Spooler
  | .configure config ticket => (s.dropStale config).answer ticket (.ok ())
  | .connect config ticket => s.startConnect config ticket
  | .print job =>
    match s.jobs[job]? with
    | some j => s.runJob job j
    | none => s
  | .disconnect ticket => (s.closeConnection.enter .idle).answer ticket (.ok ())

def takeRequest (s : Spooler) : Option Spooler :=
  match s.queue with
  | [] => none
  | request :: queue => some ({ s with queue }.handle request)

def finishWrite (s : Spooler) (job : Nat) (segment : List UInt8) (rest : List (List UInt8))
    (late : Bool) : Spooler :=
  let (result, connection, link) := s.connection.finishWrite s.link segment late
  let s := { s with connection, link }
  match result with
  | .ok () => s.continueJob job rest
  | .error e => s.failJob job e

def finishFlush (s : Spooler) (job : Nat) (late : Bool) : Spooler :=
  let (result, connection, link) := s.connection.finishFlush s.link late
  let s := { s with connection, link }
  match result with
  | .ok () => { s with activity := .draining job (s.now + s.drainDelay) }
  | .error e => s.failJob job e

/-- The time at which the worker goes on, if it waits for one. -/
def due? (s : Spooler) : Option Nat :=
  match s.activity with
  | .opening _ _ due | .writing _ _ _ due _ | .flushing _ due _ | .draining _ due => some due
  | .waiting | .stopped => none

/-- One step of the worker, if it can take one now. -/
def work (s : Spooler) : Option Spooler :=
  if s.due?.any (s.now < ·) then none
  else
    match s.activity with
    | .waiting => s.takeRequest
    | .opening ticket channel _ => some (s.finishConnect ticket channel)
    | .writing job segment rest _ late => some (s.finishWrite job segment rest late)
    | .flushing job _ late => some (s.finishFlush job late)
    | .draining job _ => some (s.completeJob job)
    | .stopped => none

def abandon (s : Spooler) : Request → Spooler
  | .configure _ ticket => s.answer ticket (.error .closed)
  | .connect _ ticket => s.answer ticket (.error .closed)
  | .print job => s.finishJob job (.error .closed)
  | .disconnect ticket => s.answer ticket (.ok ())

/-- Stops the worker, if it was asked to and is between two requests. What is queued is abandoned.
-/
def stop (s : Spooler) : Option Spooler :=
  if s.shutdown && s.activity == .waiting then
    let s := s.closeConnection.enter .idle
    some (s.queue.foldl abandon { s with queue := [], activity := .stopped })
  else none

end ReceiptPrinter.Spooler

import ReceiptPrinter.Spooler.Call

/-!
# Sessions in virtual time

A session runs a spooler on one thread with a clock of its own. What is able to run does so in the
order in which it became able to; the clock moves only when nothing is, and then to the time the
worker waits for. A worker that was asked to stop may do so between any two requests; in a session
it takes what is queued first.
-/

namespace ReceiptPrinter

inductive Runner where
  | worker
  /-- A call to connect made beside the main one. -/
  | connector (number : Nat)
  deriving DecidableEq, Repr

/-- A spooler with what runs beside the main caller. -/
structure Session where
  spooler : Spooler
  /-- In the order of their turns. -/
  ready : List Runner := [.worker]
  /-- The answers to the calls to connect made beside the main one. -/
  connectors : List (Option Answer) := []

namespace Spooler

/-- A bound on the steps for a request. -/
def requestEffort (s : Spooler) : Request → Nat
  | .print job =>
    match s.jobs[job]? with
    | some j => (j.segments.toOption.getD []).length + 4
    | none => 1
  | _ => 2

/-- A bound on the steps until the worker has nothing to do. -/
def effort (s : Spooler) : Nat :=
  (s.queue.map s.requestEffort).sum +
    match s.activity with
    | .waiting | .stopped => 0
    | .opening .. | .draining .. => 1
    | .flushing .. => 2
    | .writing _ _ rest _ _ => rest.length + 3

/-- The worker's next step; if it was asked to stop, it stops once nothing is queued. -/
def next (s : Spooler) : Option Spooler :=
  match s.work with
  | some s => some s
  | none => s.stop

/-- Takes at most so many steps of the worker without moving the clock. -/
def workFor : Nat → Spooler → Spooler
  | 0, s => s
  | n + 1, s =>
    match s.next with
    | some s => workFor n s
    | none => s

/-- Lets the worker go on as far as it can without moving the clock. -/
def workOn (s : Spooler) : Spooler := workFor (s.effort + 1) s

end Spooler

namespace Session

/-- Gives the worker a turn when it waits for requests and there is something for it. -/
def wake (s : Session) : Session :=
  if s.spooler.activity == .waiting && (s.spooler.shutdown || !s.spooler.queue.isEmpty) &&
      !s.ready.contains .worker then
    { s with ready := s.ready ++ [.worker] }
  else s

def call (s : Session) (c : Call) : Answer × Session :=
  let (answer, spooler) := s.spooler.call c
  (answer, { s with spooler }.wake)

def changeLink (s : Session) (c : LinkChange) : Session :=
  { s with spooler := s.spooler.changeLink c }

/-- Makes a call to connect beside the main one; it has its first turn after all others. -/
def spawnConnect (s : Session) : Nat × Session :=
  let number := s.connectors.length
  (number, { s with
    ready := s.ready ++ [.connector number], connectors := s.connectors ++ [none] })

def turn (s : Session) : Runner → Session
  | .worker => { s with spooler := s.spooler.workOn }
  | .connector number =>
    let (answer, s) := s.call .connect
    { s with connectors := s.connectors.set number (some answer) }

def turns : Nat → Session → Session
  | 0, s => s
  | n + 1, s =>
    match s.ready with
    | [] => s
    | r :: ready => turns n ({ s with ready }.turn r)

/-- Runs everything that can run without moving the clock; a connector wakes the worker at most
once. -/
def settle (s : Session) : Session := turns (2 * s.ready.length + 1) s

/-- Moves the clock to `due`, at which the worker goes on. -/
def jump (s : Session) (due : Nat) : Session :=
  { s with
    spooler := s.spooler.advance (due - s.spooler.now)
    ready := s.ready ++ [.worker] }

/-- Moves the clock at most so many times until `done` or nothing waits for a time. -/
def awaitFor (done : Session → Bool) : Nat → Session → Session
  | 0, s => s
  | n + 1, s =>
    if done s then s
    else
      match s.spooler.due? with
      | some due => awaitFor done n (s.jump due).settle
      | none => s

/-- Runs until `done`, and then as far as possible without moving the clock. -/
def await (done : Session → Bool) (s : Session) : Session :=
  let s := s.settle
  awaitFor done (s.spooler.effort + 1) s

/-- Runs everything up to `time`, in at most so many moves of the clock. -/
def sleepFor (time : Nat) : Nat → Session → Session
  | 0, s => s
  | n + 1, s =>
    match s.spooler.due? with
    | some due =>
      if due ≤ time then sleepFor time n (s.jump due).settle
      else { s with spooler := s.spooler.advance (time - s.spooler.now) }
    | none => { s with spooler := s.spooler.advance (time - s.spooler.now) }

def sleep (s : Session) (ms : Nat) : Session :=
  let time := s.spooler.now + ms
  let s := s.settle
  sleepFor time (s.spooler.effort + 1) s

/-- The result that an answer has come to, if it has. -/
def result? (s : Session) : Answer → Option PrintResult
  | .done result => some result
  | .ticket ticket => s.spooler.tickets[ticket]?.join
  | .job job => (s.spooler.jobs[job]?).bind Job.outcome
  | .cancelled _ => some (.ok ())

def awaitAnswer (s : Session) (answer : Answer) : Option PrintResult × Session :=
  let s := s.await fun s => (s.result? answer).isSome
  (s.result? answer, s)

/-- Makes a call and waits for its result. -/
def callAndWait (s : Session) (c : Call) : Option PrintResult × Session :=
  let (answer, s) := s.call c
  s.awaitAnswer answer

/-- The answer of a connector, once it has had its turn. -/
def connectorAnswer? (s : Session) (number : Nat) : Option Answer := s.connectors[number]?.join

def join (s : Session) (number : Nat) : Option PrintResult × Session :=
  let s := s.await fun s => ((s.connectorAnswer? number).bind s.result?).isSome
  ((s.connectorAnswer? number).bind s.result?, s)

end Session

end ReceiptPrinter

/-!
# Connection errors and times

What can go wrong on the way to a printer, and how times are written in messages.
-/

namespace ReceiptPrinter

/-- Kinds of trouble with a connection. -/
inductive ConnectionFault where
  /-- The host refused access to the device. -/
  | permissionDenied
  | timeout
  /-- The device is missing, unplugged or not bound. -/
  | deviceUnavailable
  | ioFailure
  deriving DecidableEq, Repr

structure ConnectionError where
  fault : ConnectionFault
  reason : String
  deriving DecidableEq, Repr

namespace ConnectionError

def message (e : ConnectionError) : String :=
  match e.fault with
  | .permissionDenied => s!"Permission denied: {e.reason}"
  | .timeout => s!"Timeout: {e.reason}"
  | .deviceUnavailable => s!"Device unavailable: {e.reason}"
  | .ioFailure => s!"IO failure: {e.reason}"

def unavailable (reason : String) : ConnectionError := ⟨.deviceUnavailable, reason⟩

end ConnectionError

/-- The kinds of error of an operating system that are told apart. -/
inductive SystemErrorKind where
  | permissionDenied
  | timedOut
  | wouldBlock
  | notFound
  | notConnected
  | connectionRefused
  | addressNotAvailable
  | other
  deriving DecidableEq, Repr

structure SystemError where
  kind : SystemErrorKind
  text : String
  deriving DecidableEq, Repr

def ConnectionError.ofSystem (e : SystemError) : ConnectionError :=
  match e.kind with
  | .permissionDenied => ⟨.permissionDenied, e.text⟩
  | .timedOut | .wouldBlock => ⟨.timeout, e.text⟩
  | .notFound | .notConnected | .connectionRefused | .addressNotAvailable =>
    ⟨.deviceUnavailable, e.text⟩
  | .other => ⟨.ioFailure, e.text⟩

/-- `n` thousandths as a decimal, without zeros at its end. -/
def thousandths (n : Nat) : String :=
  if n % 100 = 0 then toString (n / 100)
  else if n % 10 = 0 then toString (n / 100) ++ toString (n / 10 % 10)
  else toString (n / 100) ++ toString (n / 10 % 10) ++ toString (n % 10)

/-- A time as text, in seconds from one second on. -/
def durationText (ms : Nat) : String :=
  if ms = 0 then "0ns"
  else if ms < 1000 then toString ms ++ "ms"
  else if ms % 1000 = 0 then toString (ms / 1000) ++ "s"
  else toString (ms / 1000) ++ "." ++ thousandths (ms % 1000) ++ "s"

end ReceiptPrinter

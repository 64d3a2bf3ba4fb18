import ReceiptPrinter.Text.Basic

/-!
# Spooler settings

Times come from the environment as decimal milliseconds; what is no such number counts as absent.
-/

namespace ReceiptPrinter

structure Settings where
  /-- What one write may take. -/
  writeDeadline : Nat
  /-- The pause after a job that ends the connection. -/
  drainDelay : Nat
  deriving DecidableEq, Repr

namespace Settings

def most : Nat := UInt64.size - 1

def time? (value : Option Text) : Option Nat := value.bind (Text.nat? most)

/-- Settings from two variables of the environment, with defaults of ten seconds and 100 ms. -/
def ofEnvironment (writeDeadline drainDelay : Option Text) : Settings where
  writeDeadline := ((time? writeDeadline).filter (0 < ·)).getD 10000
  drainDelay := (time? drainDelay).getD 100

end Settings

end ReceiptPrinter

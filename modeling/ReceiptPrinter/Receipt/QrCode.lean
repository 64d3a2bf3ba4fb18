import ReceiptPrinter.Config.Basic
import ReceiptPrinter.Receipt.Error
import ReceiptPrinter.Receipt.QrSymbol

/-!
# QR codes

The printer draws the symbol; its size is computed here to choose dots per module that fit.
-/

namespace ReceiptPrinter.QrCode

/-- The largest module the firmware draws. -/
def largestModule : Nat := 16

/-- The dots per module: `wanted`, unless the firmware or the paper allow less. -/
def moduleDots (config : Config) (wanted modules : Nat) : Except EncodingError Nat :=
  let dots := min (min wanted largestModule) (config.printableDots / max modules 1)
  if dots < 1 then .error (.qrTooLarge modules config.printableDots) else .ok dots

def commands (config : Config) (q : QrCode) : Except EncodingError (List Command) :=
  let bytes := Text.utf8 q.content
  if bytes.isEmpty then .error (.qrContent .empty)
  else
    match QrSymbol.modules? bytes with
    | none => .error (.qrContent .tooLong)
    | some modules =>
      (moduleDots config q.moduleSize.toNat modules).map fun dots =>
        .align q.align :: Command.qrCode bytes dots

end ReceiptPrinter.QrCode

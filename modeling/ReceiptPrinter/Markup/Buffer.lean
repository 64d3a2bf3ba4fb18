import ReceiptPrinter.Markup.Line
import ReceiptPrinter.Markup.Printer

/-!
# Markup put together piece by piece

A buffer holds lines of markup. Every piece starts with its own alignment, so what was added before
does not move it.
-/

namespace ReceiptPrinter.Markup

/-- Lines of markup. -/
structure Buffer where
  lines : List Text := []
  deriving DecidableEq, Repr

namespace Buffer

def empty : Buffer := {}

def isEmpty (b : Buffer) : Bool := b.lines.isEmpty

def markup (b : Buffer) : Text := Text.join '\n' b.lines

def append (b : Buffer) (lines : List Text) : Buffer := ⟨b.lines ++ lines⟩

/-- The lines of a piece of markup, with `[L]` before the first: nothing of what came before it
lasts. -/
def textLines (markup : Text) : List Text :=
  match splitLines markup with
  | [] => []
  | first :: rest => (alignTag .left ++ first) :: rest

def text (b : Buffer) (markup : Text) : Buffer := b.append (textLines markup)

def element (b : Buffer) (e : Element) : Buffer := b.append [printElement e]

def picture (b : Buffer) (bitmap : Bitmap) : Buffer := b.element (.picture { bitmap })

def barcode (b : Buffer) (code : Barcode) : Buffer := b.element (.barcode code)

def qrCode (b : Buffer) (content : Text) (moduleSize : UInt8) : Buffer :=
  b.element (.qrCode { content, moduleSize })

/-- Adds `n` blank lines. -/
def feed (b : Buffer) (n : Nat) : Buffer := b.append (List.replicate n (alignTag .left))

end Buffer

end ReceiptPrinter.Markup

import ReceiptPrinter.Proofs.Command.Reader

/-!
# The printer

What the firmware makes of commands: modes, a line buffer and the paper. The buffer holds the
characters of a line until a line feed prints it; in Chinese mode a lead byte waits for its trail
byte. A reset clears all modes and the buffer.
-/

namespace ReceiptPrinter

/-- Where the firmware looks a character up: in a code of Chinese mode or in a code table. -/
inductive CodePlane where
  | chinese (code : Nat)
  | table (n : Nat)
  deriving DecidableEq, Repr

/-- A character on paper. -/
structure Mark where
  plane : CodePlane
  code : List UInt8
  style : TextStyle
  deriving DecidableEq, Repr

/-- The cells that a mark takes: one for each byte, twice as many at double width. -/
def Mark.columns (m : Mark) : Nat := m.code.length * m.style.size.widthScale

inductive Imprint where
  /-- A line of text and the style at its line feed. -/
  | line (align : Align) (style : TextStyle) (marks : List Mark)
  | picture (align : Align) (rowBytes rows : Nat) (data : List UInt8)
  | barcode (align : Align) (height module : Nat) (text : TextPosition) (symbology : Symbology)
    (data : List UInt8)
  | qrCode (align : Align) (module : Nat) (data : List UInt8)
  | space (dots : Nat)
  | cut (bridge : Bool)
  deriving DecidableEq, Repr

def Imprint.marks : Imprint → List Mark
  | .line _ _ marks => marks
  | _ => []

/-- The state of the firmware. -/
structure Printer where
  align : Align := .left
  style : TextStyle := {}
  chinese : Bool := false
  chineseCode : Nat := 0
  table : Nat := 0
  barcodeHeight : Nat := 162
  barcodeModule : Nat := 3
  barcodeText : TextPosition := .none
  qrModule : Nat := 3
  qrData : List UInt8 := []
  /-- A lead byte without its trail byte. -/
  lead : Option UInt8 := none
  /-- The characters that wait for a line feed. -/
  buffer : List Mark := []
  paper : List Imprint := []
  deriving DecidableEq, Repr

namespace Printer

def plane (p : Printer) : CodePlane := if p.chinese then .chinese p.chineseCode else .table p.table

def isLead (b : UInt8) : Bool := 0x81 ≤ b && b ≤ 0xFE

theorem isLead_ofNat {n : Nat} (hlow : 0x81 ≤ n) (hhigh : n ≤ 0xFE) :
    isLead (UInt8.ofNat n) = true := by
  rw [isLead, Bool.and_eq_true, decide_eq_true_eq, decide_eq_true_eq, UInt8.le_iff_toNat_le,
    UInt8.le_iff_toNat_le, Command.toNat_ofNat (by omega)]
  exact ⟨hlow, hhigh⟩

theorem isLead_ofNat_of_lt {n : Nat} (h : n < 0x81) : isLead (UInt8.ofNat n) = false := by
  rw [isLead, Bool.and_eq_false_iff, decide_eq_false_iff_not, UInt8.le_iff_toNat_le,
    Command.toNat_ofNat (by omega)]
  exact .inl (Nat.not_le_of_lt h)

def write (p : Printer) (code : List UInt8) : Printer :=
  { p with lead := none, buffer := p.buffer ++ [⟨p.plane, code, p.style⟩] }

def printByte (p : Printer) (b : UInt8) : Printer :=
  match p.lead with
  | some lead => p.write [lead, b]
  | none => if p.chinese && isLead b then { p with lead := some b } else p.write [b]

def put (p : Printer) (imprint : Imprint) : Printer := { p with paper := p.paper ++ [imprint] }

def printLine (p : Printer) : Printer :=
  { p.put (.line p.align p.style p.buffer) with buffer := [] }

/-- Prints what waits, if anything does. -/
def flush (p : Printer) : Printer := if p.buffer.isEmpty then p else p.printLine

def step (p : Printer) : Command → Printer
  | .reset => { paper := p.paper }
  | .enterChinese => { p with chinese := true }
  | .leaveChinese => { p with chinese := false }
  | .chineseCode n => { p with chineseCode := n }
  | .codeTable n => { p with table := n }
  | .align a => { p with align := a }
  | .bold on => { p with style := { p.style with bold := on } }
  | .underline on => { p with style := { p.style with underline := on } }
  | .size s => { p with style := { p.style with size := s } }
  | .print b => p.printByte b
  | .lineFeed => p.printLine
  | .feedDots n => p.flush.put (.space n)
  | .cut bridge => p.flush.put (.cut bridge)
  | .openDrawer => p
  | .raster rowBytes rows data => p.put (.picture p.align rowBytes rows data)
  | .barcodeHeight n => { p with barcodeHeight := n }
  | .barcodeModule n => { p with barcodeModule := n }
  | .barcodeText position => { p with barcodeText := position }
  | .barcode symbology data =>
    p.put (.barcode p.align p.barcodeHeight p.barcodeModule p.barcodeText symbology data)
  | .qrModel => p
  | .qrModule n => { p with qrModule := n }
  | .qrCorrection => p
  | .qrStore data => { p with qrData := data }
  | .qrPrint => p.put (.qrCode p.align p.qrModule p.qrData)

/-- The printer after `commands`. -/
def run (p : Printer) (commands : List Command) : Printer := commands.foldl step p

@[simp] theorem run_nil (p : Printer) : p.run [] = p := rfl

@[simp] theorem run_cons (p : Printer) (c : Command) (cs : List Command) :
    p.run (c :: cs) = (p.step c).run cs := rfl

theorem run_append (p : Printer) (cs cs' : List Command) :
    p.run (cs ++ cs') = (p.run cs).run cs' := List.foldl_append

/-- The printer after `bytes`, if they are commands. -/
def interpret? (p : Printer) (bytes : List UInt8) : Option Printer :=
  (Command.readAll? bytes).map p.run

end Printer

end ReceiptPrinter

import ReceiptPrinter.Command.Basic
import ReceiptPrinter.Proofs.Bitmap.Descriptor

/-!
# Reading commands

A reader of the bytes that a printer gets: the first bytes of a command tell how many bytes it
takes, or where it holds the number of the bytes after it; every other byte is printed if it is no
control byte. `readAll?` gives back the commands of a stream one by one, if they are `Framed`: their
numbers fit in the bytes that hold them.
-/

namespace ReceiptPrinter

def Align.ofByte? (b : UInt8) : Option Align := [left, center, right].find? (·.byte == b)

def TextSize.ofByte? (b : UInt8) : Option TextSize := all.find? (·.byte == b)

def TextPosition.ofByte? (b : UInt8) : Option TextPosition := all.find? (·.byte == b)

def Symbology.ofByte? (b : UInt8) : Option Symbology :=
  [ean13, ean8, upcA, code128].find? (·.byte == b)

theorem Align.ofByte?_byte (a : Align) : ofByte? a.byte = some a := by cases a <;> rfl

theorem TextSize.ofByte?_byte (s : TextSize) : ofByte? s.byte = some s := by cases s <;> rfl

theorem TextPosition.ofByte?_byte (p : TextPosition) : ofByte? p.byte = some p := by
  cases p <;> rfl

theorem Symbology.ofByte?_byte (s : Symbology) : ofByte? s.byte = some s := by cases s <;> rfl

namespace Command

def isPrinted (b : UInt8) : Bool := 0x20 ≤ b && b != 0x7F

def readFlag? (b : UInt8) : Option Bool :=
  if b = 0 then some false else if b = 1 then some true else none

theorem readFlag?_flag (on : Bool) : readFlag? (flag on) = some on := by cases on <;> rfl

def ofWord (low high : UInt8) : Nat := low.toNat + 256 * high.toNat

/-- The next `n` bytes, if there are as many, and the bytes after them. -/
def readData? (n : Nat) (s : List UInt8) : Option (List UInt8 × List UInt8) :=
  if n ≤ s.length then some (s.take n, s.drop n) else none

/-- Reads what follows `ESC`. -/
def readEscape? : List UInt8 → Option (Command × List UInt8)
  | 0x40 :: rest => some (reset, rest)
  | 0x61 :: n :: rest => (Align.ofByte? n).map fun a => (align a, rest)
  | 0x45 :: n :: rest => (readFlag? n).map fun on => (bold on, rest)
  | 0x2D :: n :: rest => (readFlag? n).map fun on => (underline on, rest)
  | 0x4A :: n :: rest => some (feedDots n.toNat, rest)
  | 0x74 :: n :: rest => some (codeTable n.toNat, rest)
  | 0x70 :: 0x00 :: 0x19 :: 0xFA :: rest => some (openDrawer, rest)
  | _ => none

/-- Reads what follows `FS`. -/
def readFile? : List UInt8 → Option (Command × List UInt8)
  | 0x26 :: rest => some (enterChinese, rest)
  | 0x2E :: rest => some (leaveChinese, rest)
  | 0x43 :: n :: rest => some (chineseCode n.toNat, rest)
  | _ => none

/-- The command in the data of `GS ( k`. -/
def readQrCode? : List UInt8 → Option Command
  | [0x31, 0x41, 0x32, 0x00] => some qrModel
  | [0x31, 0x43, n] => some (qrModule n.toNat)
  | [0x31, 0x45, 0x31] => some qrCorrection
  | [0x31, 0x51, 0x30] => some qrPrint
  | 0x31 :: 0x50 :: 0x30 :: data => some (qrStore data)
  | _ => none

/-- Reads what follows `GS`. -/
def readGroup? : List UInt8 → Option (Command × List UInt8)
  | 0x21 :: n :: rest => (TextSize.ofByte? n).map fun s => (size s, rest)
  | 0x68 :: n :: rest => some (barcodeHeight n.toNat, rest)
  | 0x77 :: n :: rest => some (barcodeModule n.toNat, rest)
  | 0x48 :: n :: rest => (TextPosition.ofByte? n).map fun p => (barcodeText p, rest)
  | 0x56 :: 0x41 :: 0x00 :: rest => some (cut false, rest)
  | 0x56 :: 0x42 :: 0x00 :: rest => some (cut true, rest)
  | 0x76 :: 0x30 :: 0x00 :: x0 :: x1 :: y0 :: y1 :: rest =>
    (readData? (ofWord x0 x1 * ofWord y0 y1) rest).map fun (data, rest) =>
      (raster (ofWord x0 x1) (ofWord y0 y1) data, rest)
  | 0x6B :: kind :: n :: rest => do
    let symbology ← Symbology.ofByte? kind
    let (data, rest) ← readData? n.toNat rest
    return (barcode symbology data, rest)
  | 0x28 :: 0x6B :: n0 :: n1 :: rest => do
    let (data, rest) ← readData? (ofWord n0 n1) rest
    let command ← readQrCode? data
    return (command, rest)
  | _ => none

/-- Reads a command, or a printed byte, and the bytes after it. -/
def read? : List UInt8 → Option (Command × List UInt8)
  | 0x1B :: rest => readEscape? rest
  | 0x1C :: rest => readFile? rest
  | 0x1D :: rest => readGroup? rest
  | 0x0A :: rest => some (lineFeed, rest)
  | b :: rest => if isPrinted b then some (print b, rest) else none
  | [] => none

/-- Whether the bytes of a command hold all of its numbers and the number of its data. -/
def Framed : Command → Prop
  | chineseCode n => n ≤ 255
  | codeTable n => n ≤ 255
  | print b => isPrinted b = true
  | feedDots n => n ≤ 255
  | raster rowBytes rows data =>
    rowBytes ≤ 65535 ∧ rows ≤ 65535 ∧ data.length = rowBytes * rows
  | barcodeHeight n => n ≤ 255
  | barcodeModule n => clampBarcodeModule n = n
  | barcode _ data => data.length ≤ 255
  | qrModule n => clampQrModule n = n
  | qrStore data => data.length + 3 ≤ 65535
  | _ => True

theorem readData?_append {n : Nat} {data : List UInt8} (h : data.length = n) (rest : List UInt8) :
    readData? n (data ++ rest) = some (data, rest) := by
  rw [readData?, if_pos (by simp [h]), ← h, List.take_left, List.drop_left]

theorem toNat_ofNat {n : Nat} (h : n ≤ 255) : (UInt8.ofNat n).toNat = n := by
  rw [UInt8.toNat_ofNat']
  omega

theorem ofWord_word {n : Nat} (h : n ≤ 65535) : ofWord (UInt8.ofNat n) (UInt8.ofNat (n / 256)) = n :=
  Bitmap.toNat_wordBytes h

/-- `read?` takes a `Framed` command back from the front of any stream. -/
theorem read?_bytes {c : Command} (h : c.Framed) (rest : List UInt8) :
    read? (c.bytes ++ rest) = some (c, rest) := by
  cases c with
  | reset => rfl
  | enterChinese => rfl
  | leaveChinese => rfl
  | chineseCode n =>
    show some (chineseCode (UInt8.ofNat n).toNat, rest) = _
    rw [toNat_ofNat h]
  | codeTable n =>
    show some (codeTable (UInt8.ofNat n).toNat, rest) = _
    rw [toNat_ofNat h]
  | align a =>
    show (Align.ofByte? a.byte).map (fun a => (align a, rest)) = _
    rw [Align.ofByte?_byte, Option.map_some]
  | bold on =>
    show (readFlag? (flag on)).map (fun on => (bold on, rest)) = _
    rw [readFlag?_flag, Option.map_some]
  | underline on =>
    show (readFlag? (flag on)).map (fun on => (underline on, rest)) = _
    rw [readFlag?_flag, Option.map_some]
  | size s =>
    show (TextSize.ofByte? s.byte).map (fun s => (size s, rest)) = _
    rw [TextSize.ofByte?_byte, Option.map_some]
  | print b =>
    -- no control byte is printed, the first bytes of commands among them
    have hne : ∀ c, isPrinted c = false → b ≠ c := by
      rintro c hc rfl
      rw [show isPrinted b = true from h] at hc
      cases hc
    show read? (b :: rest) = _
    unfold read?
    split
    · next heq => exact absurd (List.cons.inj heq).1 (hne 0x1B rfl)
    · next heq => exact absurd (List.cons.inj heq).1 (hne 0x1C rfl)
    · next heq => exact absurd (List.cons.inj heq).1 (hne 0x1D rfl)
    · next heq => exact absurd (List.cons.inj heq).1 (hne 0x0A rfl)
    · next heq =>
      cases heq
      exact if_pos h
    · next heq => cases heq
  | lineFeed => rfl
  | feedDots n =>
    show some (feedDots (UInt8.ofNat n).toNat, rest) = _
    rw [toNat_ofNat h]
  | cut bridge => cases bridge <;> rfl
  | openDrawer => rfl
  | raster rowBytes rows data =>
    obtain ⟨hrowBytes, hrows, hdata⟩ := h
    show (readData? (ofWord (UInt8.ofNat rowBytes) (UInt8.ofNat (rowBytes / 256)) *
        ofWord (UInt8.ofNat rows) (UInt8.ofNat (rows / 256))) (data ++ rest)).map
      (fun (data, rest) => (raster (ofWord (UInt8.ofNat rowBytes) (UInt8.ofNat (rowBytes / 256)))
        (ofWord (UInt8.ofNat rows) (UInt8.ofNat (rows / 256))) data, rest)) = _
    rw [ofWord_word hrowBytes, ofWord_word hrows, readData?_append hdata, Option.map_some]
  | barcodeHeight n =>
    show some (barcodeHeight (UInt8.ofNat n).toNat, rest) = _
    rw [toNat_ofNat h]
  | barcodeModule n =>
    have hle : clampBarcodeModule n ≤ 255 := by simp only [clampBarcodeModule, clamp]; omega
    show some (barcodeModule (UInt8.ofNat (clampBarcodeModule n)).toNat, rest) = _
    rw [toNat_ofNat hle, show clampBarcodeModule n = n from h]
  | barcodeText position =>
    show (TextPosition.ofByte? position.byte).map (fun p => (barcodeText p, rest)) = _
    rw [TextPosition.ofByte?_byte, Option.map_some]
  | barcode symbology data =>
    show ((Symbology.ofByte? symbology.byte).bind fun symbology =>
      (readData? (UInt8.ofNat data.length).toNat (data ++ rest)).bind fun (data, rest) =>
        some (barcode symbology data, rest)) = _
    rw [Symbology.ofByte?_byte, Option.bind_some, toNat_ofNat h, readData?_append rfl,
      Option.bind_some]
  | qrModel => rfl
  | qrModule n =>
    have hle : clampQrModule n ≤ 255 := by simp only [clampQrModule, clamp]; omega
    show some (qrModule (UInt8.ofNat (clampQrModule n)).toNat, rest) = _
    rw [toNat_ofNat hle, show clampQrModule n = n from h]
  | qrCorrection => rfl
  | qrStore data =>
    have hlength : ([0x31, 0x50, 0x30] ++ data).length = data.length + 3 := by simp
    show ((readData? (ofWord (UInt8.ofNat (data.length + 3)) (UInt8.ofNat ((data.length + 3) / 256)))
      ([0x31, 0x50, 0x30] ++ data ++ rest)).bind fun (data, rest) =>
        (readQrCode? data).bind fun command => some (command, rest)) = _
    rw [ofWord_word h, readData?_append hlength, Option.bind_some]
    rfl
  | qrPrint => rfl

/-! ### Whole streams -/

theorem length_readData?_le {n : Nat} {s data rest : List UInt8}
    (h : readData? n s = some (data, rest)) : rest.length ≤ s.length := by
  unfold readData? at h
  split at h
  · cases h
    simp
  · cases h

theorem rest_of_map {α : Type} {x : Option α} {f : α → Command} {c : Command}
    {rest rest' : List UInt8} (h : x.map (fun a => (f a, rest)) = some (c, rest')) :
    rest' = rest := by
  obtain ⟨a, -, heq⟩ := Option.map_eq_some_iff.1 h
  exact (Prod.mk.inj heq).2.symm

theorem length_readEscape?_lt {s rest : List UInt8} {c : Command}
    (h : readEscape? s = some (c, rest)) : rest.length < s.length := by
  unfold readEscape? at h
  split at h
  case h_1 | h_5 | h_6 | h_7 =>
    cases h
    simp only [List.length_cons]
    omega
  case h_2 | h_3 | h_4 =>
    rw [rest_of_map h]
    simp only [List.length_cons]
    omega
  case h_8 => cases h

theorem length_readFile?_lt {s rest : List UInt8} {c : Command}
    (h : readFile? s = some (c, rest)) : rest.length < s.length := by
  unfold readFile? at h
  split at h
  case h_1 | h_2 | h_3 =>
    cases h
    simp only [List.length_cons]
    omega
  case h_4 => cases h

theorem length_readGroup?_lt {s rest : List UInt8} {c : Command}
    (h : readGroup? s = some (c, rest)) : rest.length < s.length := by
  unfold readGroup? at h
  split at h
  case h_1 | h_4 =>
    rw [rest_of_map h]
    simp only [List.length_cons]
    omega
  case h_2 | h_3 | h_5 | h_6 =>
    cases h
    simp only [List.length_cons]
    omega
  case h_7 =>
    obtain ⟨⟨data, after⟩, hdata, heq⟩ := Option.map_eq_some_iff.1 h
    cases heq
    have hle := length_readData?_le hdata
    simp only [List.length_cons]
    omega
  case h_8 =>
    obtain ⟨symbology, -, h⟩ := Option.bind_eq_some_iff.1 h
    obtain ⟨⟨data, after⟩, hdata, heq⟩ := Option.bind_eq_some_iff.1 h
    cases heq
    have hle := length_readData?_le hdata
    simp only [List.length_cons]
    omega
  case h_9 =>
    obtain ⟨⟨data, after⟩, hdata, h⟩ := Option.bind_eq_some_iff.1 h
    obtain ⟨command, -, heq⟩ := Option.bind_eq_some_iff.1 h
    cases heq
    have hle := length_readData?_le hdata
    simp only [List.length_cons]
    omega
  case h_10 => cases h

theorem length_read?_lt {s rest : List UInt8} {c : Command} (h : read? s = some (c, rest)) :
    rest.length < s.length := by
  unfold read? at h
  split at h
  · exact Nat.lt_succ_of_lt (length_readEscape?_lt h)
  · exact Nat.lt_succ_of_lt (length_readFile?_lt h)
  · exact Nat.lt_succ_of_lt (length_readGroup?_lt h)
  · cases h
    exact Nat.lt_succ_self _
  · split at h
    · cases h
      exact Nat.lt_succ_self _
    · cases h
  · cases h

def readAll? (s : List UInt8) : Option (List Command) :=
  if s.isEmpty then some []
  else
    match _h : read? s with
    | none => none
    | some (c, rest) => (readAll? rest).map (c :: ·)
termination_by s.length
decreasing_by exact length_read?_lt _h

/-- `readAll?` gives back the commands of `stream cs` in order. -/
theorem readAll?_stream {cs : List Command} (h : ∀ c ∈ cs, c.Framed) :
    readAll? (stream cs) = some cs := by
  induction cs with
  | nil =>
    rw [readAll?]
    rfl
  | cons c cs ih =>
    obtain ⟨hc, hcs⟩ := List.forall_mem_cons.1 h
    have hread := read?_bytes hc (stream cs)
    have hne : ¬(c.bytes ++ stream cs).isEmpty = true := by
      intro hempty
      rw [List.isEmpty_iff.1 hempty] at hread
      cases hread
    rw [stream, List.flatMap_cons, ← stream, readAll?, if_neg hne]
    split
    · next hnone => rw [hread] at hnone; cases hnone
    · next hsome =>
      rw [hread] at hsome
      cases hsome
      rw [ih hcs, Option.map_some]

end Command

end ReceiptPrinter

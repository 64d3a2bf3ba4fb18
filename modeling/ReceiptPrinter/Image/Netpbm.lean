import ReceiptPrinter.Image.Basic

/-!
# Binary Netpbm pictures

Grey (`P5`) and colour (`P6`) pictures of one byte per sample: the width, the height and the
largest sample as decimal numbers, each followed by one white-space character, then the samples.
A comment runs from a number sign to the end of its line and counts as nothing, even inside a
number.
-/

namespace ReceiptPrinter.Netpbm

def isSpace (b : UInt8) : Bool := b == 32 || (9 ≤ b && b ≤ 13)

/-- Reads a word of ASCII characters and the white-space character after it. A comment counts as
nothing, even inside the word. -/
def readWord (inComment : Bool) (word : List UInt8) : List UInt8 → Option (List UInt8 × List UInt8)
  | [] => if word.isEmpty then none else some (word, [])
  | b :: rest =>
    if inComment then readWord (b != 10 && b != 13) word rest
    else if b == 35 then readWord true word rest
    else if isSpace b then if word.isEmpty then readWord false word rest else some (word, rest)
    else if 128 ≤ b then none
    else readWord false (word ++ [b]) rest

/-- Reads a number of 32 bits, of digits alone. -/
def readNat? (bytes : List UInt8) : Option (Nat × List UInt8) := do
  let (word, rest) ← readWord false [] bytes
  if !word.all (fun b => 48 ≤ b && b ≤ 57) then none
  let n := word.foldl (fun n b => 10 * n + (b.toNat - 48)) 0
  if UInt32.size ≤ n then none
  return (n, rest)

/-- Reads the part after the magic number, with samples of one byte. -/
def decodeBody? (channels : Nat) (bytes : List UInt8) : Option Image := do
  let (width, bytes) ← readNat? bytes
  let (height, bytes) ← readNat? bytes
  let (largest, samples) ← readNat? bytes
  if largest ≠ 255 ∨ samples.length < width * height * channels then none
  let samples := samples.toArray
  return ⟨width, height, fun x y =>
    let place := (y * width + x) * channels
    if channels = 1 then
      let grey := samples.getD place 0
      ⟨grey, grey, grey, 255⟩
    else
      ⟨samples.getD place 0, samples.getD (place + 1) 0, samples.getD (place + 2) 0, 255⟩⟩

def decode? : List UInt8 → Option Image
  | 0x50 :: 0x35 :: rest => decodeBody? 1 rest
  | 0x50 :: 0x36 :: rest => decodeBody? 3 rest
  | _ => none

end ReceiptPrinter.Netpbm

import ReceiptPrinter.Text.Basic

/-!
# Windows-1252

From `A0` on a byte is its own code point. The bytes from `80` to `9F` stand for punctuation and a
few letters; five of them have no printable character.
-/

namespace ReceiptPrinter.Windows1252

/-- The code points of the bytes from `0x80` to `0x9F`. -/
def specials : List Nat :=
  [0x20AC, 0x81, 0x201A, 0x192, 0x201E, 0x2026, 0x2020, 0x2021, 0x2C6, 0x2030, 0x160, 0x2039,
   0x152, 0x8D, 0x17D, 0x8F, 0x90, 0x2018, 0x2019, 0x201C, 0x201D, 0x2022, 0x2013, 0x2014,
   0x2DC, 0x2122, 0x161, 0x203A, 0x153, 0x9D, 0x17E, 0x178]

/-- The byte of a character past ASCII: itself from `0xA0` on, its place in `specials` below. -/
def encode? (c : Char) : Option UInt8 :=
  let n := c.toNat
  if 0xA0 ≤ n ∧ n ≤ 0xFF then some (UInt8.ofNat n)
  else (specials.findIdx? (· == n)).map fun i => UInt8.ofNat (0x80 + i)

end ReceiptPrinter.Windows1252

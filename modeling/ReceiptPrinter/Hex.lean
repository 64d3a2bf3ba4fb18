import ReceiptPrinter.Text.Quoted

/-!
# Hexadecimal text

Bytes are written as two lower-case digits each and read in either case.
-/

namespace ReceiptPrinter

/-- Why a text is no hexadecimal text. -/
inductive HexFault where
  /-- The text has an odd number of bytes. -/
  | oddLength
  /-- A byte that is no digit, and where it stands. -/
  | badDigit (byte : UInt8) (position : Nat)
  deriving DecidableEq, Repr

def HexFault.message : HexFault → String
  | .oddLength => "Odd number of digits"
  | .badDigit byte position =>
    let shown := Text.asString (Text.quoted (Char.ofNat byte.toNat))
    s!"Invalid character {shown} at position {position}"

namespace Text

def utf8 (s : Text) : List UInt8 := s.flatMap String.utf8EncodeChar

end Text

namespace Hex

def digit (n : Nat) : Char := Nat.digitChar n

/-- Two lower-case digits for each byte. -/
def encode (bytes : List UInt8) : Text :=
  bytes.flatMap fun b => [digit (b.toNat / 16), digit (b.toNat % 16)]

def pairs? : Text → Option (List UInt8)
  | [] => some []
  | [_] => none
  | a :: b :: rest => do
    let high ← Text.hexValue? a
    let low ← Text.hexValue? b
    let bytes ← pairs? rest
    return UInt8.ofNat (16 * high + low) :: bytes

def isDigitByte (b : UInt8) : Bool := b.toNat < 0x80 && Text.isHexDigit (Char.ofNat b.toNat)

/-- What is wrong with a text on which `pairs?` fails. -/
def fault (s : Text) : HexFault :=
  let bytes := Text.utf8 s
  if bytes.length % 2 = 1 then .oddLength
  else
    let position := (bytes.takeWhile isDigitByte).length
    .badDigit (bytes.getD position 0) position

/-- Reads pairs of digits in either case, or says what is wrong. -/
def decode (s : Text) : Except HexFault (List UInt8) :=
  match pairs? s with
  | some bytes => .ok bytes
  | none => .error (fault s)

end Hex

end ReceiptPrinter

import ReceiptPrinter.Text.Basic
import ReceiptPrinter.Text.Invisible

/-!
# Quoted characters

A character in a message stands between single quotes. What would not be seen there is written by
an escape: a letter for the common controls, the code point in hexadecimal for the rest.
-/

namespace ReceiptPrinter.Text

/-- The escape of a code point, as in `u{301}` after a backslash. -/
def codePointEscape (c : Char) : Text :=
  '\\' :: 'u' :: '{' :: Nat.toDigits 16 c.toNat ++ ['}']

def quotedBody (c : Char) : Text :=
  if c = '\x00' then ['\\', '0']
  else if c = '\t' then ['\\', 't']
  else if c = '\r' then ['\\', 'r']
  else if c = '\n' then ['\\', 'n']
  else if c = '\'' then ['\\', '\'']
  else if c = '\\' then ['\\', '\\']
  else if isInvisible c then codePointEscape c
  else [c]

/-- `c` between single quotes, as an escape where it would not be seen. -/
def quoted (c : Char) : Text := '\'' :: quotedBody c ++ ['\'']

end ReceiptPrinter.Text

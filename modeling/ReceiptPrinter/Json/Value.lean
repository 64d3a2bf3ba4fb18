import ReceiptPrinter.Hex

/-!
# JSON values

A value as it was written: numbers keep their digits, members keep their order and may repeat. A
string whose escapes hold half of a surrogate pair has a place in a text but no content.
-/

namespace ReceiptPrinter

/-- A number, digit by digit. -/
structure Json.Numeral where
  negative : Bool
  whole : Text
  /-- The digits after the point. -/
  fraction : Option Text
  /-- The sign and the digits of the exponent. -/
  exponent : Option (Bool × Text)
  deriving DecidableEq, Repr

/-- A JSON value. -/
inductive Json where
  | null
  | bool (b : Bool)
  | number (n : Json.Numeral)
  | string (content : Option Text)
  | array (items : List Json)
  | object (members : List (Option Text × Json))

namespace Json

/-- `c` inside a string literal: escaped if it is a control, a quote or a backslash. -/
def escape (c : Char) : Text :=
  if c = '"' then ['\\', '"']
  else if c = '\\' then ['\\', '\\']
  else if c = '\n' then ['\\', 'n']
  else if c = '\r' then ['\\', 'r']
  else if c = '\t' then ['\\', 't']
  else if c.toNat = 8 then ['\\', 'b']
  else if c.toNat = 12 then ['\\', 'f']
  else if c.toNat < 0x20 then
    ['\\', 'u', '0', '0', Hex.digit (c.toNat / 16), Hex.digit (c.toNat % 16)]
  else [c]

def quote (s : Text) : Text := '"' :: s.flatMap escape ++ ['"']

/-- An object of members whose values are already written, without white space. -/
def writeObject (members : List (Text × Text)) : Text :=
  '{' :: Text.join ',' (members.map fun (key, value) => quote key ++ ':' :: value) ++ ['}']

def writeArray (items : List Text) : Text := '[' :: Text.join ',' items ++ [']']

end Json

end ReceiptPrinter

import ReceiptPrinter.Json.Value

/-!
# Reading JSON

The reader is strict: no comments, no trailing commas, no bare control characters. A document is
read as far as it goes, so that what is wrong first in reading order can be reported: its parts in
order, and whether it also ends as it should.
-/

namespace ReceiptPrinter.Json

def isSpace (c : Char) : Bool := c == ' ' || c == '\n' || c == '\t' || c == '\r'

def skipSpace (s : Text) : Text := s.dropWhile isSpace

def hex4? (a b c d : Char) : Option Nat := do
  let a ← Text.hexValue? a
  let b ← Text.hexValue? b
  let c ← Text.hexValue? c
  let d ← Text.hexValue? d
  return ((a * 16 + b) * 16 + c) * 16 + d

def letterEscape? (c : Char) : Option Char :=
  if c = '"' ∨ c = '\\' ∨ c = '/' then some c
  else if c = 'b' then some (Char.ofNat 8)
  else if c = 'f' then some (Char.ofNat 12)
  else if c = 'n' then some '\n'
  else if c = 'r' then some '\r'
  else if c = 't' then some '\t'
  else none

/-- Puts `c` before the content of a string; a string that is no text stays so. -/
def consChar (c : Char) (s : Option Text × Text) : Option Text × Text :=
  (s.1.map (c :: ·), s.2)

/-- Reads the rest of a string literal after its opening quote. The content is `none` if it holds
half of a surrogate pair. -/
def readString : Text → Option (Option Text × Text)
  | '"' :: rest => some (some [], rest)
  | '\\' :: 'u' :: a :: b :: c :: d :: '\\' :: 'u' :: e :: f :: g :: h :: rest => do
    let unit ← hex4? a b c d
    if 0xD800 ≤ unit ∧ unit ≤ 0xDFFF then
      let low := hex4? e f g h
      match low with
      | some low =>
        if unit ≤ 0xDBFF ∧ 0xDC00 ≤ low ∧ low ≤ 0xDFFF then
          let code := 0x10000 + (unit - 0xD800) * 0x400 + (low - 0xDC00)
          return consChar (Char.ofNat code) (← readString rest)
        else
          return (none, (← readString ('\\' :: 'u' :: e :: f :: g :: h :: rest)).2)
      | none => none
    else
      return consChar (Char.ofNat unit)
        (← readString ('\\' :: 'u' :: e :: f :: g :: h :: rest))
  | '\\' :: 'u' :: a :: b :: c :: d :: rest => do
    let unit ← hex4? a b c d
    let following ← readString rest
    if 0xD800 ≤ unit ∧ unit ≤ 0xDFFF then return (none, following.2)
    else return consChar (Char.ofNat unit) following
  | '\\' :: c :: rest => do
    let c ← letterEscape? c
    return consChar c (← readString rest)
  | c :: rest => do
    if c.toNat < 0x20 then none
    else return consChar c (← readString rest)
  | [] => none
termination_by s => s.length

/-- Reads digits, at least one. -/
def readDigits? (s : Text) : Option (Text × Text) :=
  let digits := s.takeWhile Char.isDigit
  if digits.isEmpty then none else some (digits, s.dropWhile Char.isDigit)

/-- Reads the digits after a point, if there is one. -/
def readFraction? : Text → Option (Option Text × Text)
  | '.' :: rest => (readDigits? rest).map fun (digits, rest) => (some digits, rest)
  | rest => some (none, rest)

def readPower? : Text → Option ((Bool × Text) × Text)
  | '-' :: rest => (readDigits? rest).map fun (digits, rest) => ((true, digits), rest)
  | '+' :: rest => (readDigits? rest).map fun (digits, rest) => ((false, digits), rest)
  | rest => (readDigits? rest).map fun (digits, rest) => ((false, digits), rest)

/-- Reads what stands after an exponent mark, if there is one. -/
def readExponent? : Text → Option (Option (Bool × Text) × Text)
  | c :: rest =>
    if c = 'e' ∨ c = 'E' then (readPower? rest).map fun (power, rest) => (some power, rest)
    else some (none, c :: rest)
  | [] => some (none, [])

def readUnsigned (negative : Bool) (s : Text) : Option (Numeral × Text) := do
  let (whole, rest) ← readDigits? s
  if whole.head? = some '0' ∧ whole.length > 1 then none
  else
    let (fraction, rest) ← readFraction? rest
    let (exponent, rest) ← readExponent? rest
    return (⟨negative, whole, fraction, exponent⟩, rest)

/-- Reads a value that is neither array nor object. -/
def readScalar : Text → Option (Json × Text)
  | 'n' :: 'u' :: 'l' :: 'l' :: rest => some (.null, rest)
  | 't' :: 'r' :: 'u' :: 'e' :: rest => some (.bool true, rest)
  | 'f' :: 'a' :: 'l' :: 's' :: 'e' :: rest => some (.bool false, rest)
  | '"' :: rest => (readString rest).map fun (content, rest) => (.string content, rest)
  | '-' :: rest => (readUnsigned true rest).map fun (n, rest) => (.number n, rest)
  | s => (readUnsigned false s).map fun (n, rest) => (.number n, rest)

def readKey (s : Text) : Option (Option Text × Text) :=
  match skipSpace s with
  | '"' :: rest => do
    let (key, rest) ← readString rest
    match skipSpace rest with
    | ':' :: rest => return (key, rest)
    | _ => none
  | _ => none

mutual

/-- Reads a value; `fuel` bounds the steps. -/
def readValue : Nat → Text → Option (Json × Text)
  | 0, _ => none
  | fuel + 1, s =>
    match skipSpace s with
    | '[' :: rest =>
      match skipSpace rest with
      | ']' :: rest => some (.array [], rest)
      | _ => (readItems fuel rest).map fun (items, rest) => (.array items, rest)
    | '{' :: rest =>
      match skipSpace rest with
      | '}' :: rest => some (.object [], rest)
      | _ => (readMembers fuel rest).map fun (members, rest) => (.object members, rest)
    | s => readScalar s

def readItems : Nat → Text → Option (List Json × Text)
  | 0, _ => none
  | fuel + 1, s => do
    let (value, rest) ← readValue fuel s
    match skipSpace rest with
    | ',' :: rest =>
      let (values, rest) ← readItems fuel rest
      return (value :: values, rest)
    | ']' :: rest => return ([value], rest)
    | _ => none

/-- Reads the members of an object up to its end. -/
def readMembers : Nat → Text → Option (List (Option Text × Json) × Text)
  | 0, _ => none
  | fuel + 1, s => do
    let (key, rest) ← readKey s
    let (value, rest) ← readValue fuel rest
    match skipSpace rest with
    | ',' :: rest =>
      let (members, rest) ← readMembers fuel rest
      return ((key, value) :: members, rest)
    | '}' :: rest => return ([(key, value)], rest)
    | _ => none

end

/-- Reads one value. Every step takes a character, so `s.length` bounds the steps. -/
def read (s : Text) : Option (Json × Text) := readValue (2 * s.length + 2) s

/-- A document as far as it can be read; `complete` says that it ends as it should. -/
inductive Document where
  | object (members : List (Option Text × Json)) (complete : Bool)
  | array (items : List Json) (complete : Bool)
  /-- Neither object nor array. -/
  | other

/-- Whether nothing but white space follows. -/
def isEnd (s : Text) : Bool := (skipSpace s).isEmpty

/-- The members of an object as far as they can be read; `steps` bounds their number. -/
def documentMembers : Nat → Text → List (Option Text × Json) × Bool
  | 0, _ => ([], false)
  | steps + 1, s =>
    match readKey s with
    | none => ([], false)
    | some (key, rest) =>
      match read rest with
      | none => ([], false)
      | some (value, rest) =>
        match skipSpace rest with
        | ',' :: rest =>
          let (members, complete) := documentMembers steps rest
          ((key, value) :: members, complete)
        | '}' :: rest => ([(key, value)], isEnd rest)
        | _ => ([(key, value)], false)

/-- The items of an array as far as they can be read; `steps` bounds their number. -/
def documentItems : Nat → Text → List Json × Bool
  | 0, _ => ([], false)
  | steps + 1, s =>
    match read s with
    | none => ([], false)
    | some (value, rest) =>
      match skipSpace rest with
      | ',' :: rest =>
        let (items, complete) := documentItems steps rest
        (value :: items, complete)
      | ']' :: rest => ([value], isEnd rest)
      | _ => ([value], false)

/-- Reads a document as far as it goes: fields are set from what is there before the end is missed.
-/
def Document.read (s : Text) : Document :=
  match skipSpace s with
  | '{' :: rest =>
    match skipSpace rest with
    | '}' :: rest => .object [] (isEnd rest)
    | _ =>
      let (members, complete) := documentMembers s.length rest
      .object members complete
  | '[' :: rest =>
    match skipSpace rest with
    | ']' :: rest => .array [] (isEnd rest)
    | _ =>
      let (items, complete) := documentItems s.length rest
      .array items complete
  | _ => .other

end ReceiptPrinter.Json

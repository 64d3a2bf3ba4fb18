/-!
# Text

Text is a list of characters. White space is the Unicode property `White_Space`, control
characters are the general category `Cc`, and letter case is folded for ASCII letters only.
-/

namespace ReceiptPrinter

-- `List.sum` takes its zero from numerals, as in the core library, with any algebra in scope
attribute [scoped instance (high)] Zero.ofOfNat0

abbrev Text := List Char

namespace Text

/-- The Unicode property `White_Space`. -/
def isBlank (c : Char) : Bool :=
  let n := c.toNat
  (9 ≤ n && n ≤ 13) || n == 0x20 || n == 0x85 || n == 0xA0 || n == 0x1680 ||
    (0x2000 ≤ n && n ≤ 0x200A) || n == 0x2028 || n == 0x2029 || n == 0x202F || n == 0x205F ||
    n == 0x3000

/-- The general category `Cc`: the C0 and C1 controls and `DEL`. -/
def isControl (c : Char) : Bool :=
  let n := c.toNat
  n < 0x20 || (0x7F ≤ n && n ≤ 0x9F)

def isAscii (c : Char) : Bool := c.toNat < 0x80

def isHexDigit (c : Char) : Bool :=
  c.isDigit || ('a' ≤ c && c ≤ 'f') || ('A' ≤ c && c ≤ 'F')

def hexValue? (c : Char) : Option Nat :=
  if c.isDigit then some (c.toNat - 48)
  else if 'a' ≤ c && c ≤ 'f' then some (c.toNat - 87)
  else if 'A' ≤ c && c ≤ 'F' then some (c.toNat - 55)
  else none

/-- ASCII letters in lower case, all else unchanged. -/
def lower (s : Text) : Text := s.map Char.toLower

/-- ASCII letters in upper case, all else unchanged. -/
def upper (s : Text) : Text := s.map Char.toUpper

/-- Equality up to the case of ASCII letters. -/
def sameLetters (s t : Text) : Bool := lower s == lower t

def trimStart (s : Text) : Text := s.dropWhile isBlank

def trimEnd (s : Text) : Text := (s.reverse.dropWhile isBlank).reverse

def trim (s : Text) : Text := trimEnd (trimStart s)

/-- The pieces between `sep`s; there is always at least one. -/
def splitOn (sep : Char) : Text → List Text
  | [] => [[]]
  | c :: s =>
    if c = sep then [] :: splitOn sep s
    else
      match splitOn sep s with
      | [] => [[c]]
      | piece :: pieces => (c :: piece) :: pieces

theorem splitOn_ne_nil (sep : Char) (s : Text) : splitOn sep s ≠ [] := by
  cases s with
  | nil => simp [splitOn]
  | cons c s =>
    simp only [splitOn]
    split
    · simp
    · split <;> simp

/-- Pieces with `sep` between neighbours. -/
def join (sep : Char) : List Text → Text
  | [] => []
  | [s] => s
  | s :: t :: rest => s ++ sep :: join sep (t :: rest)

theorem join_splitOn (sep : Char) (s : Text) : join sep (splitOn sep s) = s := by
  induction s with
  | nil => rfl
  | cons c s ih =>
    simp only [splitOn]
    split
    · next h =>
      cases hs : splitOn sep s with
      | nil => exact absurd hs (splitOn_ne_nil sep s)
      | cons p ps => rw [hs] at ih; simp [join, ih, h]
    · cases hs : splitOn sep s with
      | nil => exact absurd hs (splitOn_ne_nil sep s)
      | cons p ps =>
        rw [hs] at ih
        cases ps with
        | nil => simpa [join] using ih
        | cons q qs => simpa [join] using ih

/-- `line` without one carriage return at its end. -/
def chomp (line : Text) : Text :=
  if line.getLast? = some '\r' then line.dropLast else line

/-- The text before and after the first `phrase`, which is not empty. -/
def splitAt? (phrase : Text) : Text → Option (Text × Text)
  | [] => if phrase.isEmpty then some ([], []) else none
  | c :: s =>
    if phrase.isPrefixOf (c :: s) then some ([], (c :: s).drop phrase.length)
    else (splitAt? phrase s).map fun (before, after) => (c :: before, after)

/-- Whether `phrase` occurs in `s`. -/
def contains (phrase s : Text) : Bool := (splitAt? phrase s).isSome

def digitsValue (s : Text) : Nat := s.foldl (fun n c => 10 * n + (c.toNat - 48)) 0

/-- A natural number of at most `most`: decimal digits with an optional plus sign. -/
def nat? (most : Nat) (s : Text) : Option Nat :=
  let digits := match s with
    | '+' :: rest => rest
    | _ => s
  if digits.isEmpty || !digits.all Char.isDigit then none
  else
    let n := digitsValue digits
    if n ≤ most then some n else none

def ofNat (n : Nat) : Text := Nat.toDigits 10 n

def asString (s : Text) : String := String.ofList s

end Text

end ReceiptPrinter

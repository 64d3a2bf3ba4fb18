import ReceiptPrinter.Number.Shortest

/-!
# Single-precision numbers

Lengths and feeds are single-precision numbers. Arithmetic rounds to nearest; a number is read
from decimal text by one correct rounding and written with the fewest digits that read back, never
with an exponent.
-/

namespace ReceiptPrinter.Number

/-- The code of the one value that is not a number. -/
def nanCode : Nat := Format.single.infinity + 1

/-- A single-precision number: a sign and the code of a magnitude. -/
structure Single where
  negative : Bool
  code : Nat
  code_le : code ≤ nanCode
  deriving DecidableEq, Repr

namespace Single

/-- The number with a sign and a code; codes past infinity are no number. -/
def ofCode (negative : Bool) (code : Nat) : Single :=
  ⟨negative, min code nanCode, Nat.min_le_right _ _⟩

def nan : Single := ofCode false nanCode

def infinity (negative : Bool) : Single := ofCode negative Format.single.infinity

def ofNat (n : Nat) : Single := ofCode false (Format.single.ofNat n)

def ofDecimal (negative : Bool) (digits : Nat) (exponent : Int) : Single :=
  ofCode negative (Format.single.ofDecimal digits exponent)

def zero : Single := ofCode false 0

def isNaN (x : Single) : Bool := x.code == nanCode

def isFinite (x : Single) : Bool := x.code < Format.single.infinity

def isPositive (x : Single) : Bool := !x.negative && 0 < x.code && !x.isNaN

def isFinitePositive (x : Single) : Bool := x.isFinite && x.isPositive

def mul (x y : Single) : Single :=
  if x.isNaN || y.isNaN then nan
  else if (x.code == 0 && !y.isFinite) || (!x.isFinite && y.code == 0) then nan
  else ofCode (x.negative != y.negative) (Format.single.mul x.code y.code)

def div (x y : Single) : Single :=
  if x.isNaN || y.isNaN || (!x.isFinite && !y.isFinite) || (x.code == 0 && y.code == 0) then nan
  else if y.code == 0 then infinity (x.negative != y.negative)
  else ofCode (x.negative != y.negative) (Format.single.div x.code y.code)

/-- The whole number nearest to `x`, a half going up, at most `most`; what is negative or no number
counts as zero. -/
def roundToNat (most : Nat) (x : Single) : Nat :=
  if x.isNaN || x.negative then 0
  else if x.isFinite then
    min most ((2 * Format.single.units x.code + 2 ^ Format.single.scale) /
      (2 * 2 ^ Format.single.scale))
  else most

/-- Reads the digits after an exponent mark. -/
def exponent? (s : Text) : Option Int :=
  let read (ds : Text) : Option Nat :=
    if ds.isEmpty || !ds.all Char.isDigit then none else some (Text.digitsValue ds)
  match s with
  | '-' :: ds => (read ds).map fun n => -(n : Int)
  | '+' :: ds => (read ds).map Int.ofNat
  | ds => (read ds).map Int.ofNat

/-- Reads an unsigned decimal: digits with at most one point and at least one digit, then possibly
an exponent. -/
def unsigned? (s : Text) : Option Digits :=
  let whole := s.takeWhile Char.isDigit
  let rest := s.dropWhile Char.isDigit
  let (places, rest) := match rest with
    | '.' :: r => (r.takeWhile Char.isDigit, r.dropWhile Char.isDigit)
    | _ => ([], rest)
  if whole.isEmpty && places.isEmpty then none
  else
    let exponent := match rest with
      | [] => some 0
      | c :: r => if c = 'e' ∨ c = 'E' then exponent? r else none
    exponent.map fun e => ⟨Text.digitsValue (whole ++ places), e - places.length⟩

/-- Reads a number: an optional sign, then a decimal or a name of infinity or of no number. -/
def ofText? (s : Text) : Option Single :=
  let (negative, body) := match s with
    | '-' :: r => (true, r)
    | '+' :: r => (false, r)
    | _ => (false, s)
  match unsigned? body with
  | some d => some (ofDecimal negative d.digits d.exponent)
  | none =>
    let name := Text.lower body
    if name = "inf".toList ∨ name = "infinity".toList then some (infinity negative)
    else if name = "nan".toList then some (ofCode negative nanCode)
    else none

/-- At most nine digits, which tell any two single-precision numbers apart. -/
def digits (tie : Tie) (x : Single) : Digits := Format.single.shortest tie 9 x.code

/-- The fewest digits that read back, in positional notation; of two decimals that are as near the
greater one. -/
def toText (x : Single) : Text :=
  if x.isNaN then "NaN".toList
  else
    let sign : Text := if x.negative then ['-'] else []
    if x.isFinite then
      sign ++ (if x.code = 0 then ['0'] else (x.digits .greater).positional)
    else sign ++ "inf".toList

/-- Scientific notation, `d.ddde+15` or `d.ddde-7`: the exponent has a sign and no leading zeros. -/
def Digits.scientific (d : Digits) : Text :=
  let ds := Nat.toDigits 10 d.digits
  let lead := d.exponent + (ds.length - 1 : Nat)
  let exponent : Text := match lead with
    | .ofNat e => '+' :: Nat.toDigits 10 e
    | .negSucc e => '-' :: Nat.toDigits 10 (e + 1)
  match ds with
  | [c] => c :: 'e' :: exponent
  | c :: cs => c :: '.' :: cs ++ 'e' :: exponent
  | [] => []

/-- The text of a number in JSON: positional with at least one place from `1e-6` up to `1e13`,
scientific outside; `null` for what is not finite. Of two decimals that are as near it is the one
with an even last digit. -/
def toJson (x : Single) : Text :=
  if !x.isFinite then "null".toList
  else
    let sign : Text := if x.negative then ['-'] else []
    if x.code = 0 then sign ++ "0.0".toList
    else
      let d := x.digits .even
      let point := d.exponent + (Nat.toDigits 10 d.digits).length
      sign ++
        if 0 ≤ d.exponent ∧ point ≤ 13 then d.positional ++ ['.', '0']
        else if -6 < point ∧ point ≤ 13 then d.positional
        else Digits.scientific d

end Single

end ReceiptPrinter.Number

import ReceiptPrinter.Number.Rounding
import ReceiptPrinter.Text.Basic

/-!
# The fewest digits that read back

A finite value is written with the fewest decimal digits that round to it; of two such decimals
the nearer is taken, and where both are as near a rule for ties decides. `Digits` is a decimal
`digits * 10 ^ exponent` whose last digit is not zero.
-/

namespace ReceiptPrinter.Number

/-- A decimal: `digits * 10 ^ exponent`. -/
structure Digits where
  digits : Nat
  exponent : Int
  deriving DecidableEq, Repr

namespace Digits

def normalizeAux : Nat → Nat → Int → Digits
  | 0, d, e => ⟨d, e⟩
  | fuel + 1, d, e => if d % 10 = 0 then normalizeAux fuel (d / 10) (e + 1) else ⟨d, e⟩

/-- The same decimal without trailing zeros. -/
def normalize (d : Digits) : Digits :=
  if d.digits = 0 then ⟨0, 0⟩ else normalizeAux d.digits d.digits d.exponent

end Digits

/-- Which of two decimals is taken that are as near. -/
inductive Tie where
  | greater
  /-- The one with an even last digit. -/
  | even
  deriving DecidableEq, Repr

/-- Whether a tie is decided for the lesser of two decimals. -/
def Tie.takesLesser : Tie → (digits : Nat) → Bool
  | greater, _ => false
  | even, digits => digits % 2 == 0

namespace Format

variable (f : Format)

/-- The exponent of the leading decimal digit of `num / den`. -/
def leadingExponent (num den : Nat) : Int :=
  if den ≤ num then (Nat.toDigits 10 (num / den)).length - 1
  else -((Nat.toDigits 10 ((den + num - 1) / num - 1)).length : Int)

/-- A neighbour on the grid of `count` significant digits that reads back as `code`, the nearer of
two. -/
def shortestAt? (tie : Tie) (code count : Nat) : Option Digits :=
  let num := f.units code
  let den := 2 ^ f.scale
  let step : Int := leadingExponent num den + 1 - count
  let (num, den) := match step with
    | .ofNat e => (num, den * 10 ^ e)
    | .negSucc e => (num * 10 ^ (e + 1), den)
  let below := num / den
  let low := f.ofDecimal below step = code
  let high := f.ofDecimal (below + 1) step = code
  let nearer := 2 * (num % den) < den ∨ (2 * (num % den) = den ∧ tie.takesLesser below)
  if low ∧ (¬high ∨ nearer) then some ⟨below, step⟩
  else if high then some ⟨below + 1, step⟩
  else none

def exact (code : Nat) : Digits := ⟨f.units code * 5 ^ f.scale, -f.scale⟩

/-- The fewest digits, at most `most`, that read back as `code`; otherwise all digits. -/
def shortest (tie : Tie) (most code : Nat) : Digits :=
  let found := (List.range most).findSome? fun n => f.shortestAt? tie code (n + 1)
  (found.getD (f.exact code)).normalize

end Format

/-- Positional notation, without an exponent and without a trailing point. -/
def Digits.positional (d : Digits) : Text :=
  let ds := Nat.toDigits 10 d.digits
  match d.exponent with
  | .ofNat e => if d.digits = 0 then ds else ds ++ List.replicate e '0'
  | .negSucc e =>
    let places := e + 1
    if places < ds.length then
      ds.take (ds.length - places) ++ '.' :: ds.drop (ds.length - places)
    else '0' :: '.' :: List.replicate (places - ds.length) '0' ++ ds

end ReceiptPrinter.Number

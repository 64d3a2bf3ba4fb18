import ReceiptPrinter.Json.Value
import ReceiptPrinter.Number.Single

/-!
# The value of a JSON number

A whole number that fits into a word of 64 bits has its exact value. Any other number collects its
leading digits in a word of 64 bits and is scaled by a power of ten in double precision; a number
too large for double precision has no value.
-/

namespace ReceiptPrinter.Json.Numeral

open ReceiptPrinter.Number

def wordMax : Nat := UInt64.size - 1

/-- The natural number written, if it is at most `most`. -/
def toNat? (most : Nat) (n : Numeral) : Option Nat :=
  if n.negative || n.fraction.isSome || n.exponent.isSome then none
  else
    let value := Text.digitsValue n.whole
    if value ≤ most then some value else none

/-- Appends digits to `word` while it stays within 64 bits, and counts the digits left over. -/
def collect (word : Nat) : Text → Nat × Nat
  | [] => (word, 0)
  | c :: ds =>
    let next := 10 * word + (c.toNat - 48)
    if next ≤ wordMax then collect next ds else (word, ds.length + 1)

def largestPower : Nat := 308

/-- Scales a double-precision code by a power of ten, in steps of at most `largestPower`. -/
def scale (code : Nat) (exponent : Int) : Option Nat :=
  let double := Format.double
  if 0 ≤ exponent then
    if exponent ≤ largestPower then
      let scaled := double.mul code (double.ofDecimal 1 exponent)
      if scaled < double.infinity then some scaled else none
    else if code = 0 then some 0
    else none
  else if -(largestPower : Int) ≤ exponent then
    some (double.div code (double.ofDecimal 1 (-exponent)))
  else if code = 0 then some 0
  else scale (double.div code (double.ofDecimal 1 largestPower)) (exponent + largestPower)
termination_by exponent.natAbs
decreasing_by simp only [largestPower] at *; omega

/-- The single-precision code nearest to a double-precision one. -/
def toSingleCode (code : Nat) : Nat :=
  if code < Format.double.infinity then
    Format.single.nearest (Format.double.units code)
      (2 ^ (Format.double.scale - Format.single.scale))
  else Format.single.infinity

/-- The digits of `n` as a word and the exponent that goes with it. -/
def significand (n : Numeral) : Nat × Int :=
  let (word, leftOver) := collect 0 n.whole
  let places := n.fraction.getD []
  let (word, ignored) := collect word places
  let written : Int := match n.exponent with
    | none => 0
    | some (negative, digits) =>
      if negative then -(Text.digitsValue digits : Int) else Text.digitsValue digits
  (word, leftOver - (places.length - ignored : Nat) + written)

/-- Whether `n` is read as an exact whole number, which is then rounded once and not twice. -/
def isExact (n : Numeral) : Bool :=
  let value := Text.digitsValue n.whole
  n.fraction.isNone && n.exponent.isNone &&
    if n.negative then 0 < value && value ≤ UInt64.size / 2 else value ≤ wordMax

/-- The value in single precision, by way of double precision unless `isExact`. -/
def toSingle? (n : Numeral) : Option Single :=
  if n.isExact then
    some (Single.ofCode n.negative (Format.single.ofNat (Text.digitsValue n.whole)))
  else
    let (word, exponent) := n.significand
    (scale (Format.double.ofNat word) exponent).map fun code =>
      Single.ofCode n.negative (toSingleCode code)

end ReceiptPrinter.Json.Numeral

/-!
# Binary floating-point formats

A magnitude of a format is stored as a code: the codes grow with the values they stand for, the
code after the last finite value is infinity, and every finite value is a whole number of units,
the unit being the least positive value of the format. Rounding is to the nearest value, a tie
going to the even code.
-/

namespace ReceiptPrinter.Number

-- powers stay those of the core library with any algebra in scope
attribute [scoped instance (high)] instPowNat instNatPowNat

/-- A binary floating-point format. A magnitude is given by its `code`, its bits without the sign.
-/
structure Format where
  /-- Stored bits of the fraction. -/
  fraction : Nat
  /-- The unit is `2 ^ -scale`. -/
  scale : Nat
  /-- The code of infinity. -/
  infinity : Nat
  deriving DecidableEq, Repr

def Format.single : Format := ⟨23, 149, 255 * 2 ^ (23 : Nat)⟩

def Format.double : Format := ⟨52, 1074, 2047 * 2 ^ (52 : Nat)⟩

/-- The whole number nearest to `num / den`, a tie going to the even neighbour. -/
def roundEven (num den : Nat) : Nat :=
  let q := num / den
  let r := num % den
  if 2 * r < den then q else if den < 2 * r then q + 1 else q + q % 2

namespace Format

variable (f : Format)

/-- The value of a finite code, counted in units of `2 ^ -scale`. -/
def units (code : Nat) : Nat :=
  if code < 2 ^ f.fraction then code
  else (2 ^ f.fraction + code % 2 ^ f.fraction) * 2 ^ (code / 2 ^ f.fraction - 1)

/-- The code nearest to `num / den` units. -/
def nearest (num den : Nat) : Nat :=
  let excess := Nat.log2 (num / den) - f.fraction
  min f.infinity (excess * 2 ^ f.fraction + roundEven num (den * 2 ^ excess))

/-- The code nearest to `num / den`. -/
def ofRatio (num den : Nat) : Nat := f.nearest (num * 2 ^ f.scale) den

def ofNat (n : Nat) : Nat := f.ofRatio n 1

/-- The code nearest to `digits * 10 ^ exponent`. -/
def ofDecimal (digits : Nat) (exponent : Int) : Nat :=
  if digits = 0 then 0
  else
    let size := (Nat.toDigits 10 digits).length + exponent
    if size > f.scale then f.infinity
    else if size < -f.scale then 0
    else
      match exponent with
      | .ofNat e => f.ofRatio (digits * 10 ^ e) 1
      | .negSucc e => f.ofRatio digits (10 ^ (e + 1))

/-- The sum of two codes, rounded once. -/
def add (a b : Nat) : Nat :=
  if a < f.infinity ∧ b < f.infinity then f.nearest (f.units a + f.units b) 1 else f.infinity

def mul (a b : Nat) : Nat :=
  if a < f.infinity ∧ b < f.infinity then f.nearest (f.units a * f.units b) (2 ^ f.scale)
  else f.infinity

def div (a b : Nat) : Nat :=
  if b < f.infinity then
    if a < f.infinity then f.nearest (f.units a * 2 ^ f.scale) (f.units b) else f.infinity
  else 0

/-- The whole part of a finite code. -/
def floor (code : Nat) : Nat := f.units code / 2 ^ f.scale

end Format

end ReceiptPrinter.Number

import ReceiptPrinter.Number.Single

/-!
# Paper and print heads

Rolls are 58 or 80 millimetres wide and heads have 203 or 180 dots per inch. The printable area
follows from the two; a character cell is twelve dots wide.
-/

namespace ReceiptPrinter

open Number

/-- The width of a roll. -/
inductive Paper where
  | mm58
  | mm80
  deriving DecidableEq, Repr

/-- The dots per inch of a print head. -/
inductive Density where
  | dpi203
  | dpi180
  deriving DecidableEq, Repr

namespace Paper

/-- The roll of a width in millimetres; `mm58` for an unknown width. -/
def ofMillimetres (mm : Nat) : Paper := if mm = 80 then .mm80 else .mm58

def millimetres : Paper → Nat
  | mm58 => 58
  | mm80 => 80

def printableMillimetres : Paper → Nat
  | mm58 => 48
  | mm80 => 72

end Paper

namespace Density

/-- The head of a density; `dpi203` for an unknown one. -/
def ofDotsPerInch (dpi : Nat) : Density := if dpi = 180 then .dpi180 else .dpi203

def dotsPerInch : Density → Nat
  | dpi203 => 203
  | dpi180 => 180

end Density

/-- A roll under a print head. -/
structure Geometry where
  paper : Paper := .mm58
  density : Density := .dpi203
  deriving DecidableEq, Repr

namespace Geometry

def cellDots : Nat := 12

def printableDots : Geometry → Nat
  | ⟨.mm58, .dpi203⟩ => 384
  | ⟨.mm80, .dpi203⟩ => 576
  | ⟨.mm58, .dpi180⟩ => 340
  | ⟨.mm80, .dpi180⟩ => 510

/-- Character cells of `cellDots` across the printable area. -/
def columns (g : Geometry) : Nat := g.printableDots / cellDots

/-- The largest number of dots that a length comes to: lengths saturate at 32 bits. -/
def mostDots : Nat := UInt32.size - 1

/-- Dots in `mm` millimetres, computed in single precision and rounded. -/
def dotsOfMillimetres (g : Geometry) (mm : Single) : Nat :=
  ((mm.mul (Single.ofNat g.density.dotsPerInch)).div (Single.ofDecimal false 254 (-1))).roundToNat
    mostDots

def dotsOfLines (g : Geometry) (lines : Single) : Nat :=
  ((lines.mul (Single.ofNat g.density.dotsPerInch)).div (Single.ofNat 6)).roundToNat mostDots

end Geometry

end ReceiptPrinter

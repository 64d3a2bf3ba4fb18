import ReceiptPrinter.Receipt.Error

/-!
# Base64

The standard alphabet with padding. The unused bits of the last symbol must be zero.
-/

namespace ReceiptPrinter.Base64

def value? (b : UInt8) : Option Nat :=
  let n := b.toNat
  if 65 ≤ n ∧ n ≤ 90 then some (n - 65)
  else if 97 ≤ n ∧ n ≤ 122 then some (n - 71)
  else if 48 ≤ n ∧ n ≤ 57 then some (n + 4)
  else if n = 43 then some 62
  else if n = 47 then some 63
  else none

def isPad (b : UInt8) : Bool := b == 61

def quad (a b c d : Nat) : List UInt8 :=
  [UInt8.ofNat (4 * a + b / 16), UInt8.ofNat (16 * (b % 16) + c / 4),
    UInt8.ofNat (64 * (c % 4) + d)]

/-- Reads groups of four symbols without padding; `position` is that of the first. -/
def readQuads (position : Nat) : List UInt8 → Except Base64Fault (List UInt8)
  | a :: b :: c :: d :: rest =>
    match value? a, value? b, value? c, value? d with
    | none, _, _, _ => .error (.badSymbol a position)
    | _, none, _, _ => .error (.badSymbol b (position + 1))
    | _, _, none, _ => .error (.badSymbol c (position + 2))
    | _, _, _, none => .error (.badSymbol d (position + 3))
    | some a, some b, some c, some d =>
      (readQuads (position + 4) rest).map (quad a b c d ++ ·)
  | _ => .ok []

/-- The first symbol of the last group that may not stand where it does; `index` counts symbols and
`pad` is the place of the first padding. -/
def lastGroupFault? (position index : Nat) (pad : Option Nat) : List UInt8 → Option Base64Fault
  | [] => none
  | b :: rest =>
    if isPad b then
      if index < 2 then some (.badSymbol b (position + index))
      else lastGroupFault? position (index + 1) (pad <|> some index) rest
    else
      match pad with
      | some first => some (.badSymbol 61 (position + first))
      | none =>
        if (value? b).isNone then some (.badSymbol b (position + index))
        else lastGroupFault? position (index + 1) none rest

/-- Reads the last group, which may be padded. -/
def readLast (position : Nat) (group : List UInt8) : Except Base64Fault (List UInt8) :=
  match lastGroupFault? position 0 none group with
  | some fault => .error fault
  | none =>
    let symbols := group.filter (!isPad ·)
    let position' := position + symbols.length
    if symbols.length < 2 then .error (.badLength position')
    else if group.length % 4 ≠ 0 then .error .badPadding
    else
      let values := symbols.filterMap value?
      let bytes := quad (values.getD 0 0) (values.getD 1 0) (values.getD 2 0) (values.getD 3 0)
      let size := symbols.length * 6 / 8
      if (bytes.drop size).all (· == 0) then .ok (bytes.take size)
      else .error (.badLastSymbol (symbols.getLastD 0) (position' - 1))

/-- The bytes that `s` encodes, `readQuads` up to the last group and `readLast` for it. -/
def decode (s : Text) : Except Base64Fault (List UInt8) :=
  let input := Text.utf8 s
  if input.isEmpty then .ok []
  else
    let last := input.getLastD 0
    if input.length % 4 = 1 ∧ !isPad last ∧ (value? last).isNone then
      .error (.badSymbol last (input.length - 1))
    else
      let whole := (input.length - 1) / 4 * 4
      match readQuads 0 (input.take whole) with
      | .error fault => .error fault
      | .ok bytes => (readLast whole (input.drop whole)).map (bytes ++ ·)

end ReceiptPrinter.Base64

import ReceiptPrinter.Text.Basic

/-!
# Numbers of sixteen bits in hexadecimal

They are written with four small digits and read with any number of digits in either case and an
optional plus sign. Main statement: what is written reads back.
-/

namespace ReceiptPrinter.Text

def hexWord (n : UInt16) : Text :=
  let n := n.toNat
  [n / 4096, n / 256 % 16, n / 16 % 16, n % 16].map Nat.digitChar

/-- The number that hexadecimal digits stand for; `some 0` for none. -/
def hexDigitsValue (s : Text) : Option Nat :=
  s.foldlM (fun n c => (hexValue? c).map (16 * n + ·)) 0

/-- Reads a number of at most sixteen bits, with an optional plus sign and any number of zeros. -/
def hexWord? (s : Text) : Option UInt16 :=
  let digits := match s with
    | '+' :: rest => rest
    | _ => s
  if digits.isEmpty then none
  else
    match hexDigitsValue digits with
    | some n => if n < 65536 then some (UInt16.ofNat n) else none
    | none => none

theorem hexValue?_digitChar : ∀ d < 16, hexValue? (Nat.digitChar d) = some d := by decide

theorem digitChar_ne_plus : ∀ d < 16, Nat.digitChar d ≠ '+' := by decide

theorem hexWord?_hexWord (n : UInt16) : hexWord? (hexWord n) = some n := by
  have hn : n.toNat < 65536 := n.toNat_lt
  have ha : n.toNat / 4096 < 16 := by omega
  have hb : n.toNat / 256 % 16 < 16 := by omega
  have hc : n.toNat / 16 % 16 < 16 := by omega
  have hd : n.toNat % 16 < 16 := by omega
  have hvalue : hexDigitsValue (hexWord n) = some n.toNat := by
    simp only [hexDigitsValue, hexWord, List.map_cons, List.map_nil, List.foldlM_cons,
      List.foldlM_nil, hexValue?_digitChar _ ha, hexValue?_digitChar _ hb,
      hexValue?_digitChar _ hc, hexValue?_digitChar _ hd, Option.map_some, Option.bind_eq_bind,
      Option.bind_some, Option.pure_def, Option.some.injEq]
    omega
  have hdigits : (match hexWord n with
      | '+' :: rest => rest
      | _ => hexWord n) = hexWord n := by
    simp only [hexWord, List.map_cons]
    split
    · next h => exact absurd (List.cons.inj h).1 (digitChar_ne_plus _ ha)
    · rfl
  simp only [hexWord?, hdigits, hvalue, hn, if_true]
  simp [hexWord]

end ReceiptPrinter.Text

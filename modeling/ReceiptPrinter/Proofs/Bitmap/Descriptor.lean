import ReceiptPrinter.Bitmap
import ReceiptPrinter.Proofs.Text.Decimal
import ReceiptPrinter.Proofs.Text.Lines
import ReceiptPrinter.Text.HexWord

/-!
# Descriptors of bitmaps

`Hex.decode` inverts `Hex.encode`, and `Bitmap.ofHex` inverts `Bitmap.toHex`.
-/

namespace ReceiptPrinter

namespace Hex

theorem pairs?_encode (bytes : List UInt8) : pairs? (encode bytes) = some bytes := by
  induction bytes with
  | nil => rfl
  | cons b bytes ih =>
    have hb := b.toNat_lt
    have hhigh : Text.hexValue? (digit (b.toNat / 16)) = some (b.toNat / 16) :=
      Text.hexValue?_digitChar _ (by omega)
    have hlow : Text.hexValue? (digit (b.toNat % 16)) = some (b.toNat % 16) :=
      Text.hexValue?_digitChar _ (by omega)
    have hbyte : UInt8.ofNat (16 * (b.toNat / 16) + b.toNat % 16) = b := by
      rw [Nat.div_add_mod]
      exact UInt8.ofNat_toNat
    rw [encode, List.flatMap_cons, ← encode]
    simp only [List.cons_append, List.nil_append, pairs?, hhigh, hlow, ih, hbyte,
      Option.bind_eq_bind, Option.bind_some, Option.pure_def]

theorem decode_encode (bytes : List UInt8) : decode (encode bytes) = .ok bytes := by
  rw [decode, pairs?_encode]

theorem isHexDigit_digit : ∀ n < 16, Text.isHexDigit (digit n) = true := by decide

theorem isHexDigit_of_mem_encode {bytes : List UInt8} {c : Char} (h : c ∈ encode bytes) :
    Text.isHexDigit c = true := by
  obtain ⟨b, -, hc⟩ := List.mem_flatMap.1 h
  have hb := b.toNat_lt
  simp only [List.mem_cons, List.not_mem_nil, or_false] at hc
  rcases hc with rfl | rfl
  · exact isHexDigit_digit _ (by omega)
  · exact isHexDigit_digit _ (by omega)

end Hex

namespace Text

theorem bounds_of_isHexDigit {c : Char} (h : isHexDigit c = true) :
    (48 ≤ c.toNat ∧ c.toNat ≤ 57) ∨ (97 ≤ c.toNat ∧ c.toNat ≤ 102) ∨
      (65 ≤ c.toNat ∧ c.toNat ≤ 70) := by
  simp only [isHexDigit, Bool.or_eq_true, Bool.and_eq_true, decide_eq_true_eq] at h
  rcases h with (h | h) | h
  · exact .inl (isDigit_iff.1 h)
  · exact .inr (.inl h)
  · exact .inr (.inr h)

/-- `isHexDigit` holds below 128 only, so `P` is checked there. -/
theorem forall_isHexDigit {P : Char → Prop}
    (hall : ∀ n < 128, isHexDigit (Char.ofNat n) = true → P (Char.ofNat n)) (c : Char)
    (h : isHexDigit c = true) : P c := by
  have hbounds := bounds_of_isHexDigit h
  have hc : c.toNat < 128 := by omega
  exact forall_ascii (P := fun c => isHexDigit c = true → P c) hall c hc h

theorem not_isBlank_of_isHexDigit {c : Char} (h : isHexDigit c = true) : isBlank c = false := by
  have hc := bounds_of_isHexDigit h
  simp only [isBlank, Bool.or_eq_false_iff, Bool.and_eq_false_iff, decide_eq_false_iff_not,
    beq_eq_false_iff_ne]
  omega

end Text

namespace Bitmap

theorem toNat_wordBytes {n : Nat} (h : n ≤ 65535) :
    (UInt8.ofNat n).toNat + 256 * (UInt8.ofNat (n / 256)).toNat = n := by
  simp only [UInt8.toNat_ofNat']
  omega

theorem ofData_self (b : Bitmap) : ofData b.width b.height b.data = .ok b := by
  have h1 := b.width_pos
  have h2 := b.width_le
  have h3 := b.height_pos
  have h4 := b.height_le
  unfold ofData
  rw [dif_neg (by omega), dif_neg (by omega), dif_neg (Decidable.not_not.2 b.data_length)]

/-- `ofHex` inverts `toHex`. -/
theorem ofHex_toHex (b : Bitmap) : ofHex b.toHex = .ok b := by
  have htrim : Text.trim b.toHex = b.toHex :=
    Text.trim_of_not_blank fun c hc =>
      Text.not_isBlank_of_isHexDigit (Hex.isHexDigit_of_mem_encode hc)
  rw [ofHex, htrim, toHex, Hex.decode_encode]
  simp only [wordBytes, List.cons_append, List.nil_append]
  rw [toNat_wordBytes b.width_le, toNat_wordBytes b.height_le, ofData_self]

end Bitmap

end ReceiptPrinter

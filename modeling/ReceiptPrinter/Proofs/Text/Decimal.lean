import Mathlib.Algebra.Group.Nat.Defs
import ReceiptPrinter.Text.Basic

/-!
# Decimal digits

A run of digits is read as the number it writes, zeros in front change nothing and zeros behind
multiply. `nat?` reads a natural number back from its digits.
-/

namespace ReceiptPrinter.Text

theorem digitsValue_eq (s : Text) : digitsValue s = Nat.ofDigitChars 10 s 0 := rfl

@[simp] theorem digitsValue_toDigits (n : Nat) : digitsValue (Nat.toDigits 10 n) = n := by
  rw [digitsValue_eq, Nat.ofDigitChars_ten_toDigits]

theorem digitsValue_zeros_append (k : Nat) (s : Text) :
    digitsValue (List.replicate k '0' ++ s) = digitsValue s := by
  rw [digitsValue_eq, Nat.ofDigitChars_append, Nat.ofDigitChars_replicate_zero, Nat.mul_zero,
    digitsValue_eq]

theorem digitsValue_append_zeros (s : Text) (k : Nat) :
    digitsValue (s ++ List.replicate k '0') = digitsValue s * 10 ^ k := by
  rw [digitsValue_eq, Nat.ofDigitChars_append, Nat.ofDigitChars_replicate_zero, Nat.mul_comm,
    digitsValue_eq]

theorem isDigit_of_mem_toDigits {n : Nat} {c : Char} (h : c ∈ Nat.toDigits 10 n) :
    c.isDigit = true :=
  Nat.isDigit_of_mem_toDigits (by decide) (by decide) h

theorem all_isDigit_toDigits (n : Nat) : (Nat.toDigits 10 n).all Char.isDigit = true :=
  List.all_eq_true.2 fun _ => isDigit_of_mem_toDigits

theorem isDigit_iff {c : Char} : c.isDigit = true ↔ 48 ≤ c.toNat ∧ c.toNat ≤ 57 := by
  simp only [Char.isDigit, Bool.and_eq_true, decide_eq_true_eq]
  exact Iff.rfl

theorem not_isBlank_of_isDigit {c : Char} (h : c.isDigit = true) : isBlank c = false := by
  have hd := isDigit_iff.1 h
  simp only [isBlank, Bool.or_eq_false_iff, Bool.and_eq_false_iff, decide_eq_false_iff_not,
    beq_eq_false_iff_ne]
  omega

theorem nat?_of_digits {most : Nat} {s : Text} (hne : s ≠ []) (hd : s.all Char.isDigit = true)
    (h : digitsValue s ≤ most) : nat? most s = some (digitsValue s) := by
  unfold nat?
  split
  · simp at hd
  · simp only [List.isEmpty_eq_false_iff.2 hne, hd, Bool.not_true, Bool.or_self, Bool.false_eq_true,
      if_false, h, if_true]

/-- `nat?` reads `ofNat n` back up to its limit. -/
theorem nat?_ofNat {most n : Nat} (h : n ≤ most) : nat? most (ofNat n) = some n := by
  have hvalue := digitsValue_toDigits n
  rw [ofNat, nat?_of_digits Nat.toDigits_ne_nil (all_isDigit_toDigits n) (hvalue.symm ▸ h), hvalue]

theorem le_of_nat? {most n : Nat} {s : Text} (h : nat? most s = some n) : n ≤ most := by
  simp only [nat?, Option.ite_none_left_eq_some, Option.ite_none_right_eq_some,
    Option.some.injEq] at h
  obtain ⟨-, hle, rfl⟩ := h
  exact hle

end ReceiptPrinter.Text

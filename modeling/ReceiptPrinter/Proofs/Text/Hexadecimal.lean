import ReceiptPrinter.Proofs.Bitmap.Reading

/-!
# Hexadecimal digits

Digits in hexadecimal are read in either case, and zeros in front change nothing. `hexWord?` reads a
text as a number of sixteen bits exactly if `IsHexOf`: it writes that number, with any zeros and at
most one plus sign before it.
-/

namespace ReceiptPrinter.Text

variable {s : Text}

/-- Whether `s` writes `n` in hexadecimal: in either case, with any zeros in front and at most one
plus sign before them. -/
def IsHexOf (s : Text) (n : Nat) : Prop :=
  ∃ sign zeros, (sign = [] ∨ sign = ['+']) ∧
    lower s = sign ++ (List.replicate zeros '0' ++ Nat.toDigits 16 n)

/-! ### Digits -/

theorem toLower_of_not_ascii {c : Char} (h : 128 ≤ c.toNat) : c.toLower = c := by
  refine dif_neg fun hupper => ?_
  have hle : c.val.toNat ≤ 90 := UInt32.le_iff_toNat_le.1 hupper.2
  rw [Char.toNat_val] at hle
  omega

theorem hexValue?_toLower (c : Char) : hexValue? c.toLower = hexValue? c := by
  by_cases hc : c.toNat < 128
  · exact forall_ascii (P := fun c => hexValue? c.toLower = hexValue? c) (by decide +kernel) c hc
  · rw [toLower_of_not_ascii (Nat.le_of_not_lt hc)]

theorem hexDigitsValue_lower (s : Text) : hexDigitsValue (lower s) = hexDigitsValue s := by
  simp only [hexDigitsValue, lower, List.foldlM_map, hexValue?_toLower]

theorem hexDigitsValue_concat (s : Text) (c : Char) : hexDigitsValue (s ++ [c]) =
    (hexDigitsValue s).bind fun n => (hexValue? c).map (16 * n + ·) := by
  simp [hexDigitsValue, List.foldlM_append]

theorem hexDigitsValue_zeros_append (k : Nat) (s : Text) :
    hexDigitsValue (List.replicate k '0' ++ s) = hexDigitsValue s := by
  induction k with
  | zero => rfl
  | succ k ih =>
    rw [← ih]
    rfl

theorem hexDigitsValue_toDigits (n : Nat) : hexDigitsValue (Nat.toDigits 16 n) = some n := by
  induction n using Nat.strongRecOn with
  | ind n ih =>
    by_cases hn : n < 16
    · rw [Nat.toDigits_of_lt_base hn, ← List.nil_append [n.digitChar], hexDigitsValue_concat,
        hexValue?_digitChar n hn]
      simp [hexDigitsValue]
    · have hle : 16 ≤ n := Nat.le_of_not_lt hn
      rw [Nat.toDigits_of_base_le (by decide) hle, hexDigitsValue_concat, ih (n / 16) (by omega),
        hexValue?_digitChar _ (Nat.mod_lt n (by decide))]
      simp [Nat.div_add_mod]

/-- Up to zeros in front, digits are those of the value they are read as; the induction is from the
last digit. -/
theorem exists_zeros_of_hexDigitsValue {n : Nat} (hne : s ≠ []) (h : hexDigitsValue s = some n) :
    ∃ k, lower s = List.replicate k '0' ++ Nat.toDigits 16 n := by
  induction s using List.reverseRecOn generalizing n with
  | nil => exact absurd rfl hne
  | append_singleton s c ih =>
    rw [hexDigitsValue_concat, Option.bind_eq_some_iff] at h
    obtain ⟨m, hm, hlast⟩ := h
    obtain ⟨d, hd, rfl⟩ := Option.map_eq_some_iff.1 hlast
    obtain ⟨d', hlt, hd', hchar⟩ := digitChar_of_hexValue? c (isHexDigit_of_hexValue? hd)
    obtain rfl : d = d' := Option.some.inj (hd.symm.trans hd')
    have hdigit : Nat.toDigits 16 d = [c.toLower] := by rw [Nat.toDigits_of_lt_base hlt, hchar]
    have hlower : lower (s ++ [c]) = lower s ++ Nat.toDigits 16 d := by
      rw [hdigit, lower, List.map_append]
      rfl
    by_cases hnil : s = []
    · subst hnil
      obtain rfl : 0 = m := Option.some.inj hm
      exact ⟨0, by simpa [lower] using hlower⟩
    · obtain ⟨k, hk⟩ := ih hnil hm
      rw [hlower, hk]
      by_cases hzero : m = 0
      · -- the zero read so far is one more zero in front
        subst hzero
        refine ⟨k + 1, ?_⟩
        rw [Nat.toDigits_zero, Nat.mul_zero, Nat.zero_add, List.replicate_succ']
      · refine ⟨k, ?_⟩
        rw [List.append_assoc, Nat.toDigits_append_toDigits (by decide) (Nat.pos_of_ne_zero hzero)
          hlt]

theorem hexDigitsValue_eq_some_iff {n : Nat} (hne : s ≠ []) : hexDigitsValue s = some n ↔
    ∃ k, lower s = List.replicate k '0' ++ Nat.toDigits 16 n := by
  refine ⟨exists_zeros_of_hexDigitsValue hne, ?_⟩
  rintro ⟨k, hk⟩
  rw [← hexDigitsValue_lower, hk, hexDigitsValue_zeros_append, hexDigitsValue_toDigits]

/-! ### Numbers of sixteen bits -/

theorem isHexOf_plus {rest : Text} {n : Nat} : IsHexOf ('+' :: rest) n ↔
    ∃ k, lower rest = List.replicate k '0' ++ Nat.toDigits 16 n := by
  constructor
  · rintro ⟨sign, k, rfl | rfl, hk⟩
    · -- a plus sign is no digit
      have hvalue : hexDigitsValue (lower ('+' :: rest)) = some n := by
        rw [hk, List.nil_append, hexDigitsValue_zeros_append, hexDigitsValue_toDigits]
      cases hvalue
    · exact ⟨k, (List.cons.inj hk).2⟩
  · rintro ⟨k, hk⟩
    exact ⟨['+'], k, .inr rfl, congrArg (List.cons '+') hk⟩

theorem isHexOf_of_no_plus {n : Nat} (h : ∀ rest, s ≠ '+' :: rest) : IsHexOf s n ↔
    ∃ k, lower s = List.replicate k '0' ++ Nat.toDigits 16 n := by
  constructor
  · rintro ⟨sign, k, rfl | rfl, hk⟩
    · exact ⟨k, hk⟩
    · obtain ⟨c, rest, rfl, hc, -⟩ := List.map_eq_cons_iff.1 hk
      rw [eq_of_toLower_eq hc (by decide)] at h
      exact absurd rfl (h rest)
  · rintro ⟨k, hk⟩
    exact ⟨[], k, .inl rfl, hk⟩

/-- Reads digits, without a sign, as a number of at most sixteen bits. -/
def digitsWord? (digits : Text) : Option UInt16 :=
  if digits.isEmpty then none
  else (hexDigitsValue digits).bind fun n =>
    if n < 65536 then some (UInt16.ofNat n) else none

theorem digitsWord?_eq_some_iff {digits : Text} {w : UInt16} : digitsWord? digits = some w ↔
    ∃ k, lower digits = List.replicate k '0' ++ Nat.toDigits 16 w.toNat := by
  unfold digitsWord?
  by_cases hnil : digits = []
  · subst hnil
    simp [lower, Nat.toDigits_ne_nil]
  rw [if_neg (by simpa using hnil), ← hexDigitsValue_eq_some_iff hnil, Option.bind_eq_some_iff]
  constructor
  · rintro ⟨n, hn, hword⟩
    split at hword
    · next hlt =>
      rw [hn, ← Option.some.inj hword, UInt16.toNat_ofNat_of_lt' hlt]
    · cases hword
  · intro hvalue
    refine ⟨w.toNat, hvalue, ?_⟩
    rw [if_pos w.toNat_lt, UInt16.ofNat_toNat]

theorem hexWord?_plus (rest : Text) : hexWord? ('+' :: rest) = digitsWord? rest := by
  unfold hexWord?
  split
  · next digits heq =>
    obtain rfl : rest = digits := (List.cons.inj heq).2
    unfold digitsWord?
    dsimp only
    cases hexDigitsValue rest <;> rfl
  · next hplus => exact absurd rfl (hplus rest)

theorem hexWord?_of_no_plus (h : ∀ rest, s ≠ '+' :: rest) : hexWord? s = digitsWord? s := by
  unfold hexWord?
  split
  · next rest => exact absurd rfl (h rest)
  · unfold digitsWord?
    dsimp only
    cases hexDigitsValue s <;> rfl

/-- `hexWord?` reads exactly the texts that write a number of sixteen bits, as that number. -/
theorem hexWord?_eq_some_iff {w : UInt16} : hexWord? s = some w ↔ IsHexOf s w.toNat := by
  by_cases hplus : ∃ rest, s = '+' :: rest
  · obtain ⟨rest, rfl⟩ := hplus
    rw [hexWord?_plus, isHexOf_plus, digitsWord?_eq_some_iff]
  · have hplus : ∀ rest, s ≠ '+' :: rest := fun rest heq => hplus ⟨rest, heq⟩
    rw [hexWord?_of_no_plus hplus, isHexOf_of_no_plus hplus, digitsWord?_eq_some_iff]

example : hexWord? "+0004b8".toList = some 0x4B8 := by decide

end ReceiptPrinter.Text

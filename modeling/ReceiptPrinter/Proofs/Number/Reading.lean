import Mathlib.Tactic.NormNum
import Mathlib.Tactic.Positivity
import ReceiptPrinter.Number.Single
import ReceiptPrinter.Proofs.Text.Decimal

/-!
# Numbers read back from their text

`Format.nearest` finds every value of a format again, whatever the fraction that stands for it, and
a decimal rounds the same with or without zeros at its end. Hence the digits of `Format.shortest`,
written positionally, read back as the number.
-/

namespace ReceiptPrinter.Number

theorem roundEven_mul_right (a : Nat) {den : Nat} (h : 0 < den) : roundEven (a * den) den = a := by
  simp [roundEven, Nat.mul_div_cancel _ h, h]

/-- `roundEven` depends on the value of the quotient only. -/
theorem roundEven_mul_mul (num den : Nat) {k : Nat} (h : 0 < k) :
    roundEven (num * k) (den * k) = roundEven num den := by
  have hdiv : num * k / (den * k) = num / den := Nat.mul_div_mul_right num den h
  have hmod : num * k % (den * k) = num % den * k := Nat.mul_mod_mul_right k num den
  have h1 : 2 * (num % den * k) < den * k ↔ 2 * (num % den) < den := by
    rw [← Nat.mul_assoc, Nat.mul_lt_mul_right h]
  have h2 : den * k < 2 * (num % den * k) ↔ den < 2 * (num % den) := by
    rw [← Nat.mul_assoc, Nat.mul_lt_mul_right h]
  simp only [roundEven, hdiv, hmod, h1, h2]

namespace Format

variable (f : Format)

theorem nearest_mul_mul (num den : Nat) {k : Nat} (h : 0 < k) :
    f.nearest (num * k) (den * k) = f.nearest num den := by
  unfold nearest
  rw [Nat.mul_div_mul_right num den h]
  simp only [Nat.mul_right_comm den k, roundEven_mul_mul _ _ h]

theorem ofRatio_mul_mul (num den : Nat) {k : Nat} (h : 0 < k) :
    f.ofRatio (num * k) (den * k) = f.ofRatio num den := by
  rw [ofRatio, Nat.mul_right_comm, nearest_mul_mul f _ _ h, ofRatio]

/-- `nearest` inverts `units` on finite codes. -/
theorem nearest_units {code den : Nat} (hcode : code < f.infinity) (hden : 0 < den) :
    f.nearest (f.units code * den) den = code := by
  have hpow : 0 < 2 ^ f.fraction := Nat.two_pow_pos _
  unfold nearest units
  rw [Nat.mul_div_cancel _ hden]
  split
  · next h =>
    have hlog : Nat.log2 code - f.fraction = 0 := by
      rcases Nat.eq_zero_or_pos code with rfl | hpos
      · simp
      · have := (Nat.log2_lt (Nat.ne_of_gt hpos)).2 h
        omega
    simp only [hlog, Nat.pow_zero, Nat.mul_one, roundEven_mul_right _ hden]
    omega
  · next h =>
    -- the leading bit of the value is bit `fraction + (exponent - 1)`
    obtain ⟨e, he⟩ : ∃ e, code / 2 ^ f.fraction = e + 1 :=
      ⟨code / 2 ^ f.fraction - 1, by have := Nat.div_pos (Nat.not_lt.1 h) hpow; omega⟩
    have hrest := Nat.mod_lt code hpow
    have hlog : Nat.log2 ((2 ^ f.fraction + code % 2 ^ f.fraction) * 2 ^ e) = f.fraction + e := by
      rw [Nat.log2_eq_iff (by positivity)]
      constructor
      · rw [Nat.pow_add]
        exact Nat.mul_le_mul_right _ (Nat.le_add_right _ _)
      · rw [Nat.pow_succ, Nat.pow_add, Nat.mul_right_comm]
        exact Nat.mul_lt_mul_of_pos_right (by omega) (Nat.two_pow_pos e)
    simp only [he, Nat.add_sub_cancel, hlog, Nat.add_sub_cancel_left, Nat.mul_assoc,
      Nat.mul_comm (2 ^ e) den]
    rw [roundEven_mul_right _ (Nat.mul_pos hden (Nat.two_pow_pos e))]
    have hsplit := Nat.div_add_mod code (2 ^ f.fraction)
    rw [he, Nat.mul_succ, Nat.mul_comm] at hsplit
    omega

/-! ### Zeros at the end of a decimal -/

theorem length_toDigits_mul_ten {d : Nat} (h : 0 < d) :
    (Nat.toDigits 10 (d * 10)).length = (Nat.toDigits 10 d).length + 1 := by
  rw [Nat.toDigits_of_base_le (by decide) (by omega)]
  simp

theorem ofDecimal_mul_ten (d : Nat) (e : Int) : f.ofDecimal (d * 10) e = f.ofDecimal d (e + 1) := by
  rcases Nat.eq_zero_or_pos d with rfl | hd
  · simp [ofDecimal]
  · have hd0 : d ≠ 0 := Nat.ne_of_gt hd
    have hd10 : d * 10 ≠ 0 := by omega
    have hsize : (((Nat.toDigits 10 (d * 10)).length : Nat) : Int) + e =
        ((Nat.toDigits 10 d).length : Nat) + (e + 1) := by
      rw [length_toDigits_mul_ten hd]; push_cast; omega
    simp only [ofDecimal, hd0, hd10, if_false, hsize]
    refine if_congr Iff.rfl rfl (if_congr Iff.rfl rfl ?_)
    match e with
    | .ofNat e =>
      show f.ofRatio (d * 10 * 10 ^ e) 1 = f.ofRatio (d * 10 ^ (e + 1)) 1
      rw [Nat.mul_assoc, ← Nat.pow_succ']
    | .negSucc 0 =>
      show f.ofRatio (d * 10) (10 ^ 1) = f.ofRatio (d * 10 ^ 0) 1
      simpa using ofRatio_mul_mul f d 1 (k := 10) (by decide)
    | .negSucc (e + 1) =>
      show f.ofRatio (d * 10) (10 ^ (e + 1 + 1)) = f.ofRatio d (10 ^ (e + 1))
      rw [Nat.pow_succ, ofRatio_mul_mul f _ _ (by decide)]

theorem ofDecimal_mul_pow (d k : Nat) (e : Int) :
    f.ofDecimal (d * 10 ^ k) e = f.ofDecimal d (e + k) := by
  induction k generalizing e with
  | zero => simp
  | succ k ih =>
    rw [Nat.pow_succ, ← Nat.mul_assoc, ofDecimal_mul_ten, ih]
    congr 1
    push_cast
    omega

theorem ofDecimal_normalizeAux (fuel d : Nat) (e : Int) :
    f.ofDecimal (Digits.normalizeAux fuel d e).digits (Digits.normalizeAux fuel d e).exponent =
      f.ofDecimal d e := by
  induction fuel generalizing d e with
  | zero => rfl
  | succ fuel ih =>
    unfold Digits.normalizeAux
    split
    · next h =>
      rw [ih, ← ofDecimal_mul_ten, Nat.div_mul_cancel (Nat.dvd_of_mod_eq_zero h)]
    · rfl

theorem ofDecimal_normalize (d : Digits) :
    f.ofDecimal d.normalize.digits d.normalize.exponent = f.ofDecimal d.digits d.exponent := by
  unfold Digits.normalize
  split
  · next h => simp [ofDecimal, h]
  · exact ofDecimal_normalizeAux f _ _ _

/-! ### The shortest digits -/

/-- Of two neighbours on a grid the one that is taken rounds to the code. -/
theorem ofDecimal_of_choice {below code : Nat} {step : Int} {nearer : Prop} [Decidable nearer]
    {d : Digits} (h : (if f.ofDecimal below step = code ∧
        (¬f.ofDecimal (below + 1) step = code ∨ nearer) then some (Digits.mk below step)
      else if f.ofDecimal (below + 1) step = code then some ⟨below + 1, step⟩
      else none) = some d) : f.ofDecimal d.digits d.exponent = code := by
  split at h
  · next hlow =>
    cases h
    exact hlow.1
  · split at h
    · next hhigh =>
      cases h
      exact hhigh
    · cases h

theorem ofDecimal_shortestAt? {tie : Tie} {code count : Nat} {d : Digits}
    (h : f.shortestAt? tie code count = some d) : f.ofDecimal d.digits d.exponent = code := by
  simp only [shortestAt?] at h
  split at h
  · exact ofDecimal_of_choice f h
  · exact ofDecimal_of_choice f h

theorem units_single_lt {code : Nat} (h : code < single.infinity) : single.units code < 10 ^ 84 := by
  have hinf : single.infinity = 255 * 2 ^ 23 := rfl
  have hfrac : single.fraction = 23 := rfl
  unfold units
  rw [hfrac]
  split
  · omega
  · have he : code / 2 ^ 23 - 1 ≤ 253 := by omega
    calc (2 ^ 23 + code % 2 ^ 23) * 2 ^ (code / 2 ^ 23 - 1)
        < 2 ^ 24 * 2 ^ (code / 2 ^ 23 - 1) :=
          Nat.mul_lt_mul_of_pos_right (by omega) (Nat.two_pow_pos _)
      _ ≤ 2 ^ 24 * 2 ^ 253 := Nat.mul_le_mul_left _ (Nat.pow_le_pow_right (by decide) he)
      _ < 10 ^ 84 := by norm_num

theorem ofDecimal_exact {code : Nat} (h : code < single.infinity) :
    single.ofDecimal (single.exact code).digits (single.exact code).exponent = code := by
  have hscale : single.scale = 149 := rfl
  set n := single.units code * 5 ^ 149 with hn
  show single.ofDecimal n (Int.negSucc 148) = code
  unfold ofDecimal
  split
  · next hzero =>
    have hunits : single.units code = 0 := by
      rcases Nat.mul_eq_zero.1 hzero with h0 | h0
      · exact h0
      · norm_num at h0
    have := nearest_units single h Nat.one_pos
    rw [hunits] at this
    exact this
  · have hlt : n < 10 ^ 189 :=
      calc n < 10 ^ 84 * 5 ^ 149 :=
            Nat.mul_lt_mul_of_pos_right (units_single_lt h) (Nat.pow_pos (by decide))
        _ ≤ 10 ^ 84 * 10 ^ 105 := Nat.mul_le_mul_left _ (by norm_num)
        _ = 10 ^ 189 := (Nat.pow_add 10 84 105).symm
    have hlen := (Nat.length_toDigits_le_iff (b := 10) (by decide) (by decide : 0 < 189)).2 hlt
    have hpos : 0 < (Nat.toDigits 10 n).length := Nat.length_toDigits_pos
    simp only [hscale]
    rw [if_neg (by omega), if_neg (by omega)]
    show single.nearest (n * 2 ^ 149) (10 ^ 149) = code
    rw [hn, Nat.mul_assoc, ← Nat.mul_pow]
    exact nearest_units single h (by norm_num)

/-- `shortest` rounds back to a finite code, whatever the `tie` and the number of digits. -/
theorem ofDecimal_shortest (tie : Tie) (most : Nat) {code : Nat} (h : code < single.infinity) :
    single.ofDecimal (single.shortest tie most code).digits
      (single.shortest tie most code).exponent = code := by
  unfold shortest
  rw [ofDecimal_normalize]
  cases hfound : (List.range most).findSome? fun n => single.shortestAt? tie code (n + 1) with
  | none => exact ofDecimal_exact h
  | some d =>
    obtain ⟨n, -, hn⟩ := List.exists_of_findSome?_eq_some hfound
    exact ofDecimal_shortestAt? single hn

end Format

/-! ### Positional notation -/

namespace Single

theorem takeWhile_isDigit_append {s t : Text} (h : s.all Char.isDigit = true) :
    (s ++ t).takeWhile Char.isDigit = s ++ t.takeWhile Char.isDigit :=
  List.takeWhile_append_of_pos (List.all_eq_true.1 h)

theorem dropWhile_isDigit_append {s t : Text} (h : s.all Char.isDigit = true) :
    (s ++ t).dropWhile Char.isDigit = t.dropWhile Char.isDigit :=
  List.dropWhile_append_of_pos (List.all_eq_true.1 h)

/-- Digits alone are a whole number. -/
theorem unsigned?_whole {s : Text} (hne : s ≠ []) (hd : s.all Char.isDigit = true) :
    unsigned? s = some ⟨Text.digitsValue s, 0⟩ := by
  have htake := takeWhile_isDigit_append (t := []) hd
  have hdrop := dropWhile_isDigit_append (t := []) hd
  rw [List.append_nil, List.takeWhile_nil, List.append_nil] at htake
  rw [List.append_nil, List.dropWhile_nil] at hdrop
  simp [unsigned?, htake, hdrop, hne]

/-- Digits, a point and digits are a number with places. -/
theorem unsigned?_point {whole places : Text} (hne : whole ≠ [])
    (hw : whole.all Char.isDigit = true) (hp : places.all Char.isDigit = true) :
    unsigned? (whole ++ '.' :: places) =
      some ⟨Text.digitsValue (whole ++ places), -(places.length : Int)⟩ := by
  have htake := takeWhile_isDigit_append (t := '.' :: places) hw
  have hdrop := dropWhile_isDigit_append (t := '.' :: places) hw
  have hpt : places.takeWhile Char.isDigit = places := by
    simpa using takeWhile_isDigit_append (t := []) hp
  have hpd : places.dropWhile Char.isDigit = [] := by
    simpa using dropWhile_isDigit_append (t := []) hp
  have hdot : ('.' : Char).isDigit = false := by decide
  rw [List.takeWhile_cons, hdot] at htake
  rw [List.dropWhile_cons, hdot] at hdrop
  simp only [Bool.false_eq_true, if_false, List.append_nil] at htake hdrop
  simp [unsigned?, htake, hdrop, hpt, hpd, hne]

theorem all_isDigit_zeros (k : Nat) : (List.replicate k '0').all Char.isDigit = true := by
  rw [List.all_eq_true]
  intro c hc
  rw [List.eq_of_mem_replicate hc]
  decide

/-- `unsigned?` reads positional notation as a decimal of the same value. -/
theorem unsigned?_positional {d : Digits} (h : d.digits ≠ 0) :
    ∃ r, unsigned? d.positional = some r ∧
      ∀ f : Format, f.ofDecimal r.digits r.exponent = f.ofDecimal d.digits d.exponent := by
  obtain ⟨n, e⟩ := d
  have hds := Text.all_isDigit_toDigits n
  have hne : Nat.toDigits 10 n ≠ [] := Nat.toDigits_ne_nil
  cases e with
  | ofNat e =>
    refine ⟨⟨n * 10 ^ e, 0⟩, ?_, fun f => ?_⟩
    · simp only at h
      simp only [Digits.positional, h, if_false]
      rw [unsigned?_whole (by simp [hne]) (by simp only [List.all_append, hds, all_isDigit_zeros,
        Bool.and_self]), Text.digitsValue_append_zeros, Text.digitsValue_toDigits]
    · rw [Format.ofDecimal_mul_pow, Int.zero_add]
      rfl
  | negSucc e =>
    refine ⟨⟨n, Int.negSucc e⟩, ?_, fun f => rfl⟩
    simp only [Digits.positional]
    split
    · next hlt =>
      have hsplit := List.take_append_drop ((Nat.toDigits 10 n).length - (e + 1))
        (Nat.toDigits 10 n)
      have hall : ((Nat.toDigits 10 n).take ((Nat.toDigits 10 n).length - (e + 1))).all
          Char.isDigit = true ∧ ((Nat.toDigits 10 n).drop
            ((Nat.toDigits 10 n).length - (e + 1))).all Char.isDigit = true := by
        rw [← Bool.and_eq_true, ← List.all_append, hsplit]
        exact hds
      have htake : (Nat.toDigits 10 n).take ((Nat.toDigits 10 n).length - (e + 1)) ≠ [] := by
        intro h0
        have := congrArg List.length h0
        simp only [List.length_take, List.length_nil] at this
        omega
      rw [unsigned?_point htake hall.1 hall.2, hsplit, Text.digitsValue_toDigits,
        List.length_drop]
      simp only [Option.some.injEq, Digits.mk.injEq, true_and]
      omega
    · next hge =>
      have hall : (List.replicate (e + 1 - (Nat.toDigits 10 n).length) '0' ++
          Nat.toDigits 10 n).all Char.isDigit = true := by
        simp only [List.all_append, hds, all_isDigit_zeros, Bool.and_self]
      have hzero : ['0'] ≠ ([] : Text) := by simp
      have hread := unsigned?_point hzero (by decide) hall
      rw [List.cons_append, List.cons_append]
      rw [List.singleton_append] at hread
      rw [hread, List.singleton_append, ← List.cons_append, ← List.replicate_succ,
        Text.digitsValue_zeros_append, Text.digitsValue_toDigits]
      simp only [Option.some.injEq, Digits.mk.injEq, true_and, List.length_append,
        List.length_replicate]
      omega

theorem isDigit_of_mem_positional {d : Digits} {c : Char} (h : c ∈ d.positional) :
    c.isDigit = true ∨ c = '.' := by
  obtain ⟨n, e⟩ := d
  have hzero {k : Nat} (hc : c ∈ List.replicate k '0') : c.isDigit = true :=
    List.all_eq_true.1 (all_isDigit_zeros k) c hc
  cases e with
  | ofNat e =>
    simp only [Digits.positional] at h
    split at h
    · exact .inl (Text.isDigit_of_mem_toDigits h)
    · rcases List.mem_append.1 h with h | h
      · exact .inl (Text.isDigit_of_mem_toDigits h)
      · exact .inl (hzero h)
  | negSucc e =>
    simp only [Digits.positional] at h
    split at h
    · rcases List.mem_append.1 h with h | h
      · exact .inl (Text.isDigit_of_mem_toDigits (List.mem_of_mem_take h))
      · rcases List.mem_cons.1 h with h | h
        · exact .inr h
        · exact .inl (Text.isDigit_of_mem_toDigits (List.mem_of_mem_drop h))
    · rcases List.mem_append.1 h with h | h
      · rcases List.mem_cons.1 h with rfl | h
        · exact .inl (by decide)
        · rcases List.mem_cons.1 h with h | h
          · exact .inr h
          · exact .inl (hzero h)
      · exact .inl (Text.isDigit_of_mem_toDigits h)

/-- `ofText?` reads an unsigned decimal with or without a minus sign before it. -/
theorem ofText?_of_unsigned? {s : Text} {d : Digits} (hd : unsigned? s = some d)
    (hs : ∀ c ∈ s, c.isDigit = true ∨ c = '.') (negative : Bool) :
    ofText? ((if negative then ['-'] else []) ++ s) =
      some (ofDecimal negative d.digits d.exponent) := by
  cases negative with
  | true => simp [ofText?, hd]
  | false =>
    have hminus : ∀ r, s ≠ '-' :: r := by
      rintro r rfl
      rcases hs '-' (by simp) with h | h <;> revert h <;> decide
    have hplus : ∀ r, s ≠ '+' :: r := by
      rintro r rfl
      rcases hs '+' (by simp) with h | h <;> revert h <;> decide
    simp only [Bool.false_eq_true, if_false, List.nil_append, ofText?, hd]

theorem code_lt_of_isFinite {x : Single} (h : x.isFinite = true) :
    x.code < Format.single.infinity := by
  simpa [isFinite] using h

theorem isNaN_of_isFinite {x : Single} (h : x.isFinite = true) : x.isNaN = false := by
  have := code_lt_of_isFinite h
  simp only [isNaN, beq_eq_false_iff_ne, nanCode]
  omega

/-- `toText` of a finite number is positional notation, after a sign if it is negative. -/
theorem toText_of_isFinite {x : Single} (h : x.isFinite = true) :
    x.toText = (if x.negative then ['-'] else []) ++
      if x.code = 0 then ['0'] else (x.digits .greater).positional := by
  simp only [toText, isNaN_of_isFinite h, h, Bool.false_eq_true, if_false, if_true]

theorem ofDecimal_digits {x : Single} (h : x.isFinite = true) (tie : Tie) :
    Format.single.ofDecimal (x.digits tie).digits (x.digits tie).exponent = x.code :=
  Format.ofDecimal_shortest tie 9 (code_lt_of_isFinite h)

theorem digits_ne_zero {x : Single} (h : x.isFinite = true) (hzero : x.code ≠ 0) (tie : Tie) :
    (x.digits tie).digits ≠ 0 := by
  intro h0
  have := ofDecimal_digits h tie
  rw [h0] at this
  exact hzero (by simpa [Format.ofDecimal] using this.symm)

theorem ofCode_code (x : Single) : ofCode x.negative x.code = x := by
  simp only [ofCode, Nat.min_eq_left x.code_le]

/-- `ofText?` inverts `toText` on finite numbers. -/
theorem ofText?_toText {x : Single} (h : x.isFinite = true) : ofText? x.toText = some x := by
  rw [toText_of_isFinite h]
  by_cases hzero : x.code = 0
  · have hread : unsigned? ['0'] = some ⟨0, 0⟩ := by decide
    rw [if_pos hzero, ofText?_of_unsigned? hread (by simp), ofDecimal]
    have := ofCode_code x
    rw [hzero] at this
    simpa [Format.ofDecimal] using this
  · obtain ⟨r, hr, hvalue⟩ := unsigned?_positional (digits_ne_zero h hzero .greater)
    rw [if_neg hzero, ofText?_of_unsigned? hr fun c hc => isDigit_of_mem_positional hc, ofDecimal,
      hvalue, ofDecimal_digits h, ofCode_code]

/-- `toText` of a finite number has no characters but digits, points and minus signs. -/
theorem isDigit_of_mem_toText {x : Single} (h : x.isFinite = true) {c : Char}
    (hc : c ∈ x.toText) : c.isDigit = true ∨ c = '.' ∨ c = '-' := by
  rw [toText_of_isFinite h] at hc
  rcases List.mem_append.1 hc with hc | hc
  · split at hc
    · exact .inr (.inr (List.mem_singleton.1 hc))
    · cases hc
  · split at hc
    · rw [List.mem_singleton.1 hc]
      exact .inl (by decide)
    · exact (isDigit_of_mem_positional hc).imp id .inl

end Single

end ReceiptPrinter.Number

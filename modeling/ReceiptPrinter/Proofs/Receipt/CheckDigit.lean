import Mathlib.Data.List.Basic
import ReceiptPrinter.Proofs.Text.Decimal
import ReceiptPrinter.Receipt.Barcode

/-!
# Check digits

The places of a number weigh one and three in turn, from the last one on. `checkDigit?` gives the
one digit that brings the `checksum` to a multiple of ten, and `DetectsErrors`: it shows every
change of a single digit, and every exchange of two neighbours that differ modulo five. A numeric
barcode `TakesNumbers`: its data is its payload with the check digit, which is refused if it is
wrong.
-/

namespace ReceiptPrinter.Barcode

/-! ### Weighted sums -/

/-- The weight of a place, counted from the last one. -/
def placeWeight (place : Nat) : Nat := if place % 2 = 0 then 1 else 3

def digitValue (c : Char) : Nat := c.toNat - 48

def IsNumeric (s : Text) : Prop := ∀ c ∈ s, c.isDigit = true

/-- The sum of the digits of `s`, each with the weight of its place. -/
def checksum (s : Text) : Nat :=
  (s.reverse.mapIdx fun place c => placeWeight place * digitValue c).sum

instance (s : Text) : Decidable (IsNumeric s) := List.decidableBAll _ s

theorem isNumeric_iff {s : Text} : IsNumeric s ↔ s.all Char.isDigit = true := List.all_eq_true.symm

theorem digitValue_lt {c : Char} (h : c.isDigit = true) : digitValue c < 10 := by
  have hbounds := Text.isDigit_iff.1 h
  unfold digitValue
  omega

theorem eq_of_digitValue_eq {c d : Char} (hc : c.isDigit = true) (hd : d.isDigit = true)
    (h : digitValue c = digitValue d) : c = d := by
  have hcbounds := Text.isDigit_iff.1 hc
  have hdbounds := Text.isDigit_iff.1 hd
  unfold digitValue at h
  exact Char.toNat_inj.1 (by omega)

theorem sum_mapIdx_placeWeight (place : Nat) (ds : Text) :
    (ds.mapIdx fun i c => placeWeight (i + place) * digitValue c).sum =
      weightedSum (place % 2 = 1) (ds.map digitValue) := by
  induction ds generalizing place with
  | nil => rfl
  | cons c ds ih =>
    have hnext := ih (place + 1)
    simp only [← Nat.add_assoc, Nat.add_right_comm _ place 1] at hnext
    rw [List.mapIdx_cons, List.sum_cons, hnext, List.map_cons, weightedSum, Nat.zero_add,
      placeWeight]
    rcases Nat.mod_two_eq_zero_or_one place with heven | hodd
    · have hodd : (place + 1) % 2 = 1 := by omega
      simp [heven, hodd]
    · have heven : (place + 1) % 2 = 0 := by omega
      simp [heven, hodd]

theorem checksum_eq (s : Text) : checksum s = weightedSum false (s.reverse.map digitValue) :=
  sum_mapIdx_placeWeight 0 s.reverse

theorem checksum_concat (s : Text) (c : Char) :
    checksum (s ++ [c]) = digitValue c + weightedSum true (s.reverse.map digitValue) := by
  rw [checksum_eq, List.reverse_append]
  rfl

/-- Which weight comes after `xs` depends on their number alone. -/
theorem exists_weightedSum_append (triple : Bool) (xs : List Nat) :
    ∃ next, ∀ ys, weightedSum triple (xs ++ ys) = weightedSum triple xs + weightedSum next ys := by
  induction xs generalizing triple with
  | nil => exact ⟨triple, fun ys => by rw [List.nil_append, weightedSum, Nat.zero_add]⟩
  | cons x xs ih =>
    obtain ⟨next, hnext⟩ := ih (!triple)
    refine ⟨next, fun ys => ?_⟩
    rw [List.cons_append, weightedSum, weightedSum, hnext, Nat.add_assoc]

/-- Three has no common factor with ten, so a change of one digit shows in the last digit of the
sum. -/
theorem eq_of_weightedSum_mod_eq {triple : Bool} {xs ys : List Nat} {a b : Nat} (ha : a < 10)
    (hb : b < 10)
    (h : weightedSum triple (xs ++ a :: ys) % 10 = weightedSum triple (xs ++ b :: ys) % 10) :
    a = b := by
  obtain ⟨next, hnext⟩ := exists_weightedSum_append triple xs
  rw [hnext, hnext, weightedSum, weightedSum] at h
  cases next
  · simp only [Bool.false_eq_true, if_false] at h
    omega
  · simp only [if_true] at h
    omega

/-- Neighbours differ in weight by two, so their exchange shows unless their difference is a
multiple of five. -/
theorem weightedSum_swap_mod_eq_iff (triple : Bool) (xs ys : List Nat) (a b : Nat) :
    weightedSum triple (xs ++ a :: b :: ys) % 10 = weightedSum triple (xs ++ b :: a :: ys) % 10 ↔
      a % 5 = b % 5 := by
  obtain ⟨next, hnext⟩ := exists_weightedSum_append triple xs
  rw [hnext, hnext, weightedSum, weightedSum, weightedSum, weightedSum, Bool.not_not]
  cases next
  · simp only [Bool.false_eq_true, if_false, Bool.not_false, if_true]
    omega
  · simp only [if_true, Bool.not_true, Bool.false_eq_true, if_false]
    omega

theorem weightedSum_le (triple : Bool) {ds : List Nat} (h : ∀ d ∈ ds, d < 10) :
    weightedSum triple ds ≤ 27 * ds.length := by
  induction ds generalizing triple with
  | nil => exact Nat.le_refl 0
  | cons d ds ih =>
    obtain ⟨hd, hds⟩ := List.forall_mem_cons.1 h
    have hrest := ih (!triple) hds
    rw [weightedSum, List.length_cons]
    split <;> omega

/-! ### The check digit -/

theorem mapM_digit? (s : Text) :
    s.mapM digit? = if s.all Char.isDigit then some (s.map digitValue) else none := by
  induction s with
  | nil => rfl
  | cons c s ih =>
    rw [List.mapM_cons, ih, digit?]
    by_cases hc : c.isDigit = true
    · by_cases hs : s.all Char.isDigit = true
      · simp [hc, hs, digitValue]
      · simp [hc, hs]
    · simp [hc]

theorem checkDigit?_of_isNumeric {s : Text} (h : IsNumeric s) :
    checkDigit? s = some ((10 - weightedSum true (s.reverse.map digitValue) % 10) % 10) := by
  rw [checkDigit?, mapM_digit?, List.all_reverse, if_pos (isNumeric_iff.1 h), Option.map_some]

theorem isNumeric_of_checkDigit? {s : Text} {d : Nat} (h : checkDigit? s = some d) :
    IsNumeric s := by
  rw [checkDigit?, mapM_digit?, List.all_reverse] at h
  split at h
  · next hall => exact isNumeric_iff.2 hall
  · cases h

theorem exists_checkDigit?_iff {s : Text} : (∃ d, checkDigit? s = some d) ↔ IsNumeric s := by
  constructor
  · rintro ⟨d, h⟩
    exact isNumeric_of_checkDigit? h
  · intro h
    exact ⟨_, checkDigit?_of_isNumeric h⟩

theorem lt_of_checkDigit? {s : Text} {d : Nat} (h : checkDigit? s = some d) : d < 10 := by
  rw [checkDigit?_of_isNumeric (isNumeric_of_checkDigit? h)] at h
  cases h
  exact Nat.mod_lt _ (by decide)

/-- `checkDigit? s` is the digit that brings the `checksum` to a multiple of ten. -/
theorem checkDigit?_eq_iff {s : Text} (hs : IsNumeric s) {c : Char} (hc : c.isDigit = true) :
    checkDigit? s = some (digitValue c) ↔ 10 ∣ checksum (s ++ [c]) := by
  have hlt := digitValue_lt hc
  rw [checkDigit?_of_isNumeric hs, Option.some.injEq, checksum_concat]
  omega

theorem checkDigit?_eq_checkDigit?_iff {u v : Text} (hu : IsNumeric u) (hv : IsNumeric v) :
    checkDigit? u = checkDigit? v ↔
      weightedSum true (u.reverse.map digitValue) % 10 =
        weightedSum true (v.reverse.map digitValue) % 10 := by
  rw [checkDigit?_of_isNumeric hu, checkDigit?_of_isNumeric hv, Option.some.injEq]
  omega

theorem map_digitValue_reverse (x : Text) (a : Char) (y : Text) :
    (x ++ a :: y).reverse.map digitValue =
      y.reverse.map digitValue ++ digitValue a :: x.reverse.map digitValue := by
  simp

theorem exists_eq_append_of_existsUnique {u v : Text} (hlength : u.length = v.length)
    (h : ∃! i : Nat, u[i]? ≠ v[i]?) :
    ∃ x a b y, u = x ++ a :: y ∧ v = x ++ b :: y ∧ a ≠ b := by
  obtain ⟨i, hne, hunique⟩ := h
  have hi : i < u.length := by
    by_contra hle
    rw [List.getElem?_eq_none (by omega), List.getElem?_eq_none (by omega)] at hne
    exact hne rfl
  have hset : v = u.set i v[i] := by
    refine List.ext_getElem? fun j => ?_
    by_cases hj : j = i
    · rw [hj, List.getElem?_set_self hi, List.getElem?_eq_getElem (by omega)]
    · rw [List.getElem?_set_ne (Ne.symm hj)]
      exact (not_ne_iff.1 (mt (hunique j) hj)).symm
  refine ⟨u.take i, u[i], v[i], u.drop (i + 1), ?_, ?_, ?_⟩
  · rw [List.getElem_cons_drop, List.take_append_drop]
  · rw [List.set_eq_take_append_cons_drop, if_pos hi] at hset
    exact hset
  · rwa [List.getElem?_eq_getElem hi, List.getElem?_eq_getElem (by omega), ne_eq,
      Option.some.injEq] at hne

/-- What a check digit is to do. -/
structure DetectsErrors (check? : Text → Option Nat) : Prop where
  exists_iff : ∀ s, (∃ d, check? s = some d) ↔ IsNumeric s
  lt_ten : ∀ s d, check? s = some d → d < 10
  /-- It brings the checksum of the text that it ends to a multiple of ten. -/
  eq_iff : ∀ s c, IsNumeric s → c.isDigit = true →
    (check? s = some (digitValue c) ↔ 10 ∣ checksum (s ++ [c]))
  /-- A change of one digit changes it. -/
  change : ∀ u v, IsNumeric u → IsNumeric v → u.length = v.length → (∃! i : Nat, u[i]? ≠ v[i]?) →
    check? u ≠ check? v
  /-- An exchange of two neighbours changes it unless they agree modulo five. -/
  exchange : ∀ x a b y, IsNumeric (x ++ a :: b :: y) →
    (check? (x ++ a :: b :: y) = check? (x ++ b :: a :: y) ↔ digitValue a % 5 = digitValue b % 5)

/-- `checkDigit?` detects what `DetectsErrors` asks for. Its sum fits in 32 bits if the text is
shorter than a hundred million digits. -/
theorem detectsErrors_checkDigit? :
    DetectsErrors checkDigit? ∧
    ∀ s, IsNumeric s → s.length < 10 ^ 8 →
      weightedSum true (s.reverse.map digitValue) < 2 ^ 32 := by
  constructor
  · constructor
    case exists_iff => exact fun s => exists_checkDigit?_iff
    case lt_ten => exact fun s d => lt_of_checkDigit?
    case eq_iff => exact fun s c hs => checkDigit?_eq_iff hs
    case change =>
      intro u v hu hv hlength hdiffer heq
      obtain ⟨x, a, b, y, rfl, rfl, hne⟩ := exists_eq_append_of_existsUnique hlength hdiffer
      have ha : a.isDigit = true := hu a (by simp)
      have hb : b.isDigit = true := hv b (by simp)
      rw [checkDigit?_eq_checkDigit?_iff hu hv, map_digitValue_reverse,
        map_digitValue_reverse] at heq
      exact hne (eq_of_digitValue_eq ha hb
        (eq_of_weightedSum_mod_eq (digitValue_lt ha) (digitValue_lt hb) heq))
    case exchange =>
      intro x a b y h
      have hperm : (x ++ a :: b :: y).Perm (x ++ b :: a :: y) := .append_left x (.swap b a y)
      have h' : IsNumeric (x ++ b :: a :: y) := fun c hc => h c (hperm.mem_iff.2 hc)
      have hreverse : ∀ c d, (x ++ c :: d :: y).reverse.map digitValue = y.reverse.map digitValue ++
          digitValue d :: digitValue c :: x.reverse.map digitValue := fun c d => by simp
      rw [checkDigit?_eq_checkDigit?_iff h h', hreverse, hreverse, weightedSum_swap_mod_eq_iff]
      exact eq_comm
  · intro s hs hshort
    have hdigits : ∀ d ∈ s.reverse.map digitValue, d < 10 :=
      List.forall_mem_map.2 fun c hc => digitValue_lt (hs c (List.mem_reverse.1 hc))
    have hle := weightedSum_le true hdigits
    rw [List.length_map, List.length_reverse] at hle
    omega

/-! ### Numeric barcodes -/

/-- The digits of a numeric barcode without its check digit. -/
def payloadLength? : Symbology → Option Nat
  | .ean13 => some 12
  | .ean8 => some 7
  | .upcA => some 11
  | .code128 => none

def digitBytes (digits : Text) : List UInt8 := digits.map fun c => UInt8.ofNat c.toNat

/-- The digits of `payload` with their check digit. -/
def withCheckDigit (payload : Text) : Text :=
  payload ++ [Nat.digitChar ((checkDigit? payload).getD 0)]

theorem toNat_digitChar {d : Nat} (h : d < 10) : (Nat.digitChar d).toNat = 48 + d := by
  revert d
  decide

theorem isDigit_digitChar {d : Nat} (h : d < 10) : (Nat.digitChar d).isDigit = true := by
  rw [Text.isDigit_iff, toNat_digitChar h]
  omega

theorem digitValue_digitChar {d : Nat} (h : d < 10) : digitValue (Nat.digitChar d) = d := by
  rw [digitValue, toNat_digitChar h, Nat.add_sub_cancel_left]

section
variable {payload : Text}

theorem dvd_checksum_concat_iff (h : IsNumeric payload) {c : Char} (hc : c.isDigit = true) :
    10 ∣ checksum (payload ++ [c]) ↔ payload ++ [c] = withCheckDigit payload := by
  obtain ⟨d, hd⟩ := exists_checkDigit?_iff.2 h
  have hlt := lt_of_checkDigit? hd
  rw [← checkDigit?_eq_iff h hc, withCheckDigit, hd, Option.getD_some, Option.some.injEq,
    List.append_cancel_left_eq, List.singleton_inj]
  constructor
  · rintro rfl
    exact eq_of_digitValue_eq hc (isDigit_digitChar hlt) (digitValue_digitChar hlt).symm
  · rintro rfl
    exact (digitValue_digitChar hlt).symm

theorem isNumeric_withCheckDigit (h : IsNumeric payload) : IsNumeric (withCheckDigit payload) := by
  obtain ⟨d, hd⟩ := exists_checkDigit?_iff.2 h
  rw [withCheckDigit, hd]
  refine List.forall_mem_append.2 ⟨h, ?_⟩
  simpa using isDigit_digitChar (lt_of_checkDigit? hd)

theorem dvd_checksum_withCheckDigit (h : IsNumeric payload) :
    10 ∣ checksum (withCheckDigit payload) := by
  obtain ⟨d, hd⟩ := exists_checkDigit?_iff.2 h
  have hdigit := isDigit_digitChar (lt_of_checkDigit? hd)
  have heq : payload ++ [Nat.digitChar d] = withCheckDigit payload := by
    rw [withCheckDigit, hd, Option.getD_some]
  rw [← heq, dvd_checksum_concat_iff h hdigit, heq]

theorem length_withCheckDigit (payload : Text) :
    (withCheckDigit payload).length = payload.length + 1 := by
  rw [withCheckDigit, List.length_append, List.length_singleton]

/-- `numericData` completes a number of the right length, or refuses its check digit. -/
theorem numericData_eq {p : Nat} {content : Text} (h : IsNumeric content)
    (hlength : content.length = p ∨ content.length = p + 1) :
    numericData p content = match content.drop p with
      | [] => .ok (digitBytes (withCheckDigit (content.take p)))
      | c :: _ =>
        if checkDigit? (content.take p) = some (digitValue c) then
          .ok (digitBytes (withCheckDigit (content.take p)))
        else .error (.wrongCheckDigit ((checkDigit? (content.take p)).getD 0) (digitValue c)) := by
  obtain ⟨d, hd⟩ := exists_checkDigit?_iff.2 fun c hc => h c (List.mem_of_mem_take (i := p) hc)
  have hdata : digitBytes (withCheckDigit (content.take p)) =
      (content.take p).map (fun c => UInt8.ofNat c.toNat) ++ [UInt8.ofNat (48 + d)] := by
    rw [digitBytes, withCheckDigit, hd, Option.getD_some, List.map_append, List.map_singleton,
      toNat_digitChar (lt_of_checkDigit? hd)]
  have hok : ¬(content.length ≠ p ∧ content.length ≠ p + 1) := by omega
  unfold numericData
  rw [isNumeric_iff.1 h, hdata]
  simp only [Bool.not_true, Bool.false_eq_true, if_false, if_neg hok, hd, Option.getD_some,
    Option.some.injEq, eq_comm (a := d)]
  rfl

/-- Whether `content` is a payload of `p` digits, or a payload with its check digit. -/
def IsChecked (p : Nat) (content : Text) : Prop :=
  IsNumeric content ∧ (content.length = p ∨ (content.length = p + 1 ∧ 10 ∣ checksum content))

/-- A payload with a further digit `IsChecked` if that one is its check digit. -/
theorem isChecked_concat_iff {p : Nat} {c : Char} (h : IsNumeric (payload ++ [c]))
    (hlength : payload.length = p) :
    IsChecked p (payload ++ [c]) ↔ checkDigit? payload = some (digitValue c) := by
  obtain ⟨hpayload, hc⟩ := List.forall_mem_append.1 h
  rw [checkDigit?_eq_iff hpayload (hc c List.mem_cons_self), IsChecked, List.length_append]
  simp [h, hlength]

theorem exists_eq_concat {p : Nat} {content : Text} (h : content.length = p + 1) :
    ∃ payload c, content = payload ++ [c] ∧ payload.length = p := by
  have hdrop : (content.drop p).length = 1 := by
    rw [List.length_drop]
    omega
  obtain ⟨c, hc⟩ := List.length_eq_one_iff.1 hdrop
  refine ⟨content.take p, c, ?_, ?_⟩
  · rw [← hc, List.take_append_drop]
  · rw [List.length_take]
    omega

theorem numericData_of_isChecked {p : Nat} {content : Text} (h : IsChecked p content) :
    numericData p content = .ok (digitBytes (withCheckDigit (content.take p))) := by
  rw [numericData_eq h.1 (h.2.imp id And.left)]
  rcases h.2 with hlength | ⟨hlength, -⟩
  · rw [List.drop_eq_nil_of_le (Nat.le_of_eq hlength)]
  · obtain ⟨payload, c, rfl, rfl⟩ := exists_eq_concat hlength
    rw [isChecked_concat_iff h.1 rfl] at h
    rw [List.drop_left, List.take_left]
    exact if_pos h

theorem isChecked_of_numericData {p : Nat} {content : Text} {data : List UInt8}
    (h : numericData p content = .ok data) : IsChecked p content := by
  have hnumeric : IsNumeric content := by
    by_contra hnot
    rw [isNumeric_iff, Bool.not_eq_true] at hnot
    rw [numericData, hnot] at h
    cases h
  have hlength : content.length = p ∨ content.length = p + 1 := by
    by_contra hnot
    rw [numericData, isNumeric_iff.1 hnumeric, if_neg (by decide), if_pos (not_or.1 hnot)] at h
    cases h
  rw [numericData_eq hnumeric hlength] at h
  rcases hlength with hlength | hlength
  · exact ⟨hnumeric, .inl hlength⟩
  · obtain ⟨payload, c, rfl, rfl⟩ := exists_eq_concat hlength
    rw [List.drop_left, List.take_left] at h
    simp only at h
    split at h
    · next hcheck => exact (isChecked_concat_iff hnumeric rfl).2 hcheck
    · cases h

/-- `numericData` succeeds on the contents that are `IsChecked`, with the payload and its check
digit. -/
theorem numericData_eq_ok_iff {p : Nat} {content : Text} {data : List UInt8} :
    numericData p content = .ok data ↔
      IsChecked p content ∧ data = digitBytes (withCheckDigit (content.take p)) := by
  constructor
  · intro h
    have hchecked := isChecked_of_numericData h
    rw [numericData_of_isChecked hchecked, Except.ok.injEq] at h
    exact ⟨hchecked, h.symm⟩
  · rintro ⟨hchecked, rfl⟩
    exact numericData_of_isChecked hchecked

theorem isChecked_withCheckDigit (h : IsNumeric payload) :
    IsChecked payload.length (withCheckDigit payload) :=
  ⟨isNumeric_withCheckDigit h,
    .inr ⟨length_withCheckDigit payload, dvd_checksum_withCheckDigit h⟩⟩

end

/-- No single digit of a checked content of full length can be changed. -/
theorem not_isChecked_set {p i : Nat} {content : Text} {c : Char} (h : IsChecked p content)
    (hlength : content.length = p + 1) (hi : i < content.length) (hc : c.isDigit = true)
    (hne : content[i] ≠ c) : ¬IsChecked p (content.set i c) := by
  intro hset
  have hdvd := (h.2.resolve_left (by omega)).2
  have hdvd' := (hset.2.resolve_left (by rw [List.length_set]; omega)).2
  have hold : content = content.take i ++ content[i] :: content.drop (i + 1) := by
    rw [List.getElem_cons_drop, List.take_append_drop]
  have hdigit : content[i].isDigit = true := h.1 _ (List.getElem_mem hi)
  rw [hold, checksum_eq, map_digitValue_reverse] at hdvd
  rw [List.set_eq_take_append_cons_drop, if_pos hi, checksum_eq, map_digitValue_reverse] at hdvd'
  have hsame := (Nat.mod_eq_zero_of_dvd hdvd).trans (Nat.mod_eq_zero_of_dvd hdvd').symm
  exact hne (eq_of_digitValue_eq hdigit hc
    (eq_of_weightedSum_mod_eq (digitValue_lt hdigit) (digitValue_lt hc) hsame))

theorem dataOf_numeric {symbology : Symbology} {p : Nat} (hp : payloadLength? symbology = some p)
    (content : Text) : dataOf symbology content = numericData p content := by
  cases symbology <;> cases hp <;> rfl

/-- Whether `b` takes numbers of `p` digits and completes them with a check digit. -/
structure TakesNumbers (b : Barcode) (p : Nat) : Prop where
  /-- A content is a payload, or a payload with the digit that brings the checksum to a multiple of
  ten. -/
  exists_iff : (∃ data, b.data = .ok data) ↔ IsNumeric b.content ∧
    (b.content.length = p ∨ (b.content.length = p + 1 ∧ 10 ∣ checksum b.content))
  /-- The data is the payload with its check digit, and is its own data. -/
  completed : ∀ data, b.data = .ok data → ∃ digits, data = digitBytes digits ∧ IsNumeric digits ∧
    digits.length = p + 1 ∧ b.content.take p <+: digits ∧ 10 ∣ checksum digits ∧
    { b with content := digits }.data = .ok data
  /-- Of a content of full length no single digit can be changed. -/
  change : b.content.length = p + 1 → (∃ data, b.data = .ok data) →
    ∀ i c, (hi : i < b.content.length) → c.isDigit = true → b.content[i] ≠ c →
      ∃ e, { b with content := b.content.set i c }.data = .error e

/-- A numeric barcode `TakesNumbers` of the length of its kind. -/
theorem takesNumbers_of_payloadLength? {b : Barcode} {p : Nat}
    (hp : payloadLength? b.symbology = some p) : b.TakesNumbers p := by
  have hdata : ∀ content data, { b with content }.data = .ok data ↔
      IsChecked p content ∧ data = digitBytes (withCheckDigit (content.take p)) := by
    intro content data
    rw [data_eq_ok_iff, dataOf_numeric hp, numericData_eq_ok_iff]
  have hexists : ∀ content, (∃ data, { b with content }.data = .ok data) ↔ IsChecked p content := by
    intro content
    simp only [hdata, exists_and_left, exists_eq, and_true]
  constructor
  case exists_iff => exact hexists b.content
  case completed =>
    intro data h
    obtain ⟨hchecked, rfl⟩ := (hdata b.content data).1 h
    have hnumeric : IsNumeric (b.content.take p) := fun c hc =>
      hchecked.1 c (List.mem_of_mem_take hc)
    have hlength : (b.content.take p).length = p := by
      have hle : p ≤ b.content.length := by rcases hchecked.2 with h | h <;> omega
      rw [List.length_take, Nat.min_eq_left hle]
    have hagain := isChecked_withCheckDigit hnumeric
    rw [hlength] at hagain
    refine ⟨withCheckDigit (b.content.take p), rfl, hagain.1, ?_, List.prefix_append _ _,
      dvd_checksum_withCheckDigit hnumeric, (hdata _ _).2 ⟨hagain, ?_⟩⟩
    · rw [length_withCheckDigit, hlength]
    · rw [withCheckDigit, List.take_left' hlength]
      rfl
  case change =>
    intro hlength h i c hi hc hne
    have hnot := not_isChecked_set ((hexists b.content).1 h) hlength hi hc hne
    cases hset : { b with content := b.content.set i c }.data with
    | ok data => exact absurd ((hexists _).1 ⟨data, hset⟩) hnot
    | error e => exact ⟨e, rfl⟩

def fullEan8 : Barcode := { symbology := .ean8, content := "96385074".toList }

theorem takesNumbers_fullEan8 :
    payloadLength? fullEan8.symbology = some 7 ∧ fullEan8.content.length = 7 + 1 ∧
    (∃ data, fullEan8.data = .ok data) ∧ fullEan8.TakesNumbers 7 :=
  ⟨rfl, rfl, ⟨_, rfl⟩, takesNumbers_of_payloadLength? rfl⟩

end ReceiptPrinter.Barcode

import Mathlib.Algebra.Order.Floor.Div
import ReceiptPrinter.Proofs.Bitmap.Descriptor

/-!
# What descriptors say

`Hex.pairs?` reads a text exactly if it consists of an even number of hexadecimal digits; the bytes
written again are the text in lower case. `IsDescriptor` says that the digits of a text hold a
width, a height and as many bytes as these ask for. `Bitmap.ofHex` accepts exactly such texts, and
the bitmap read from one is written as the text in lower case.
-/

namespace ReceiptPrinter

/-! ### Digits -/

namespace Text

/-- `Nat.digitChar` inverts `hexValue?` up to letter case. -/
theorem digitChar_of_hexValue? : ∀ c, isHexDigit c = true →
    ∃ n < 16, hexValue? c = some n ∧ Nat.digitChar n = c.toLower :=
  forall_isHexDigit (by decide)

theorem isHexDigit_of_hexValue? {c : Char} {n : Nat} (h : hexValue? c = some n) :
    isHexDigit c = true := by
  unfold hexValue? at h
  unfold isHexDigit
  split_ifs at h with hdigit hsmall hcapital
  · rw [hdigit]
    rfl
  · rw [hsmall, Bool.or_true]
    rfl
  · rw [hcapital, Bool.or_true]

end Text

namespace Hex

variable {s : Text} {bytes : List UInt8}

def digitAt (s : Text) (i : Nat) : Nat := (s[i]?.bind Text.hexValue?).getD 0

/-- The byte of the digits at `2 * i` and `2 * i + 1`. -/
def byteAt (s : Text) (i : Nat) : Nat := 16 * digitAt s (2 * i) + digitAt s (2 * i + 1)

theorem byteAt_succ (a b : Char) (s : Text) (i : Nat) :
    byteAt (a :: b :: s) (i + 1) = byteAt s i := rfl

theorem pairs?_cons_eq_some {a b : Char} (h : pairs? (a :: b :: s) = some bytes) :
    ∃ high low rest, Text.hexValue? a = some high ∧ Text.hexValue? b = some low ∧
      pairs? s = some rest ∧ bytes = UInt8.ofNat (16 * high + low) :: rest := by
  simp only [pairs?, Option.bind_eq_bind, Option.bind_eq_some_iff, Option.pure_def,
    Option.some.injEq] at h
  obtain ⟨high, hhigh, low, hlow, rest, hrest, rfl⟩ := h
  exact ⟨high, low, rest, hhigh, hlow, hrest, rfl⟩

theorem pairs?_cons {a b : Char} {high low : Nat} (ha : Text.hexValue? a = some high)
    (hb : Text.hexValue? b = some low) (h : pairs? s = some bytes) :
    pairs? (a :: b :: s) = some (UInt8.ofNat (16 * high + low) :: bytes) := by
  simp only [pairs?, ha, hb, h, Option.bind_eq_bind, Option.bind_some, Option.pure_def]

/-- `pairs?` accepts an even number of hexadecimal digits and nothing else. -/
theorem exists_pairs?_iff : (∃ bytes, pairs? s = some bytes) ↔
    s.length % 2 = 0 ∧ ∀ c ∈ s, Text.isHexDigit c = true := by
  induction s using pairs?.induct with
  | case1 => exact ⟨fun _ => by simp, fun _ => ⟨[], rfl⟩⟩
  | case2 c => simp [pairs?]
  | case3 a b s ih =>
    have hlength : (a :: b :: s).length % 2 = s.length % 2 := by
      rw [List.length_cons, List.length_cons]
      omega
    rw [hlength, List.forall_mem_cons, List.forall_mem_cons]
    constructor
    · rintro ⟨bytes, h⟩
      obtain ⟨high, low, rest, hhigh, hlow, hrest, -⟩ := pairs?_cons_eq_some h
      obtain ⟨heven, hdigits⟩ := ih.1 ⟨rest, hrest⟩
      exact ⟨heven, Text.isHexDigit_of_hexValue? hhigh, Text.isHexDigit_of_hexValue? hlow, hdigits⟩
    · rintro ⟨heven, ha, hb, hdigits⟩
      obtain ⟨rest, hrest⟩ := ih.2 ⟨heven, hdigits⟩
      obtain ⟨high, -, hhigh, -⟩ := Text.digitChar_of_hexValue? a ha
      obtain ⟨low, -, hlow, -⟩ := Text.digitChar_of_hexValue? b hb
      exact ⟨_, pairs?_cons hhigh hlow hrest⟩

theorem length_of_pairs? (h : pairs? s = some bytes) : s.length = 2 * bytes.length := by
  induction s using pairs?.induct generalizing bytes with
  | case1 =>
    cases h
    rfl
  | case2 c => cases h
  | case3 a b s ih =>
    obtain ⟨high, low, rest, -, -, hrest, rfl⟩ := pairs?_cons_eq_some h
    rw [List.length_cons, List.length_cons, List.length_cons, ih hrest]
    omega

theorem exists_byte {a b : Char} {high low : Nat} (ha : Text.hexValue? a = some high)
    (hb : Text.hexValue? b = some low) :
    (UInt8.ofNat (16 * high + low)).toNat = 16 * high + low ∧
      digit high = a.toLower ∧ digit low = b.toLower ∧ low < 16 := by
  obtain ⟨n, hn, hna, hchar⟩ := Text.digitChar_of_hexValue? a (Text.isHexDigit_of_hexValue? ha)
  obtain ⟨m, hm, hmb, hchar'⟩ := Text.digitChar_of_hexValue? b (Text.isHexDigit_of_hexValue? hb)
  rw [ha] at hna
  rw [hb] at hmb
  cases hna
  cases hmb
  refine ⟨?_, hchar, hchar', hm⟩
  rw [UInt8.toNat_ofNat']
  omega

theorem toNat_getElem_of_pairs? (h : pairs? s = some bytes) {i : Nat} (hi : i < bytes.length) :
    bytes[i].toNat = byteAt s i := by
  induction s using pairs?.induct generalizing bytes i with
  | case1 =>
    cases h
    cases hi
  | case2 c => cases h
  | case3 a b s ih =>
    obtain ⟨high, low, rest, ha, hb, hrest, rfl⟩ := pairs?_cons_eq_some h
    cases i with
    | zero =>
      have hbyte : byteAt (a :: b :: s) 0 = 16 * high + low := by simp [byteAt, digitAt, ha, hb]
      rw [List.getElem_cons_zero, hbyte]
      exact (exists_byte ha hb).1
    | succ i =>
      rw [List.getElem_cons_succ, byteAt_succ]
      exact ih hrest (Nat.lt_of_succ_lt_succ hi)

/-- `encode` after `pairs?` leaves the text in lower case. -/
theorem encode_of_pairs? (h : pairs? s = some bytes) : encode bytes = Text.lower s := by
  induction s using pairs?.induct generalizing bytes with
  | case1 =>
    cases h
    rfl
  | case2 c => cases h
  | case3 a b s ih =>
    obtain ⟨high, low, rest, ha, hb, hrest, rfl⟩ := pairs?_cons_eq_some h
    obtain ⟨hbyte, hhigh, hlow, hlt⟩ := exists_byte ha hb
    have hdiv : (16 * high + low) / 16 = high := by omega
    have hmod : (16 * high + low) % 16 = low := by omega
    have hrest := ih hrest
    rw [encode] at hrest ⊢
    rw [List.flatMap_cons, hrest, hbyte, hdiv, hmod, hhigh, hlow]
    rfl

theorem decode_eq_ok_iff : decode s = .ok bytes ↔ pairs? s = some bytes := by
  unfold decode
  cases pairs? s <;> simp

end Hex

/-! ### Descriptors -/

namespace Bitmap

variable {s : Text} {b : Bitmap} {width height : Nat} {data : List UInt8}

/-- The bytes that `toHex` encodes. -/
def bytes (b : Bitmap) : List UInt8 := wordBytes b.width ++ wordBytes b.height ++ b.data

def wordAt (s : Text) (i : Nat) : Nat := Hex.byteAt s i + 256 * Hex.byteAt s (i + 1)

/-- Whether `s` is the descriptor of a bitmap: an even number of digits for a width, a height and as
many bytes as the rows need. -/
structure IsDescriptor (s : Text) : Prop where
  even : s.length % 2 = 0
  digits : ∀ c ∈ s, Text.isHexDigit c = true
  header : 4 ≤ s.length / 2
  width_pos : 1 ≤ wordAt s 0
  height_pos : 1 ≤ wordAt s 2
  rows : s.length / 2 - 4 = (wordAt s 0 ⌈/⌉ 8) * wordAt s 2

theorem bytesForDots_eq (width : Nat) : bytesForDots width = width ⌈/⌉ 8 := by
  rw [Nat.ceilDiv_eq_add_pred_div]
  rfl

theorem wordBytes_toNat (low high : UInt8) :
    wordBytes (low.toNat + 256 * high.toNat) = [low, high] := by
  have hlow := low.toNat_lt
  have hhigh := high.toNat_lt
  rw [wordBytes]
  congr 1
  · refine UInt8.toNat_inj.1 ?_
    rw [UInt8.toNat_ofNat']
    omega
  · congr 1
    refine UInt8.toNat_inj.1 ?_
    rw [UInt8.toNat_ofNat']
    omega

theorem ofData_eq_ok_iff :
    ofData width height data = .ok b ↔ b.width = width ∧ b.height = height ∧ b.data = data := by
  constructor
  · intro h
    unfold ofData at h
    split at h
    · cases h
    · split at h
      · cases h
      · split at h
        · cases h
        · cases h
          exact ⟨rfl, rfl, rfl⟩
  · rintro ⟨rfl, rfl, rfl⟩
    exact ofData_self b

theorem exists_ofData_iff (hwidth : width ≤ 65535) (hheight : height ≤ 65535) :
    (∃ b, ofData width height data = .ok b) ↔
      1 ≤ width ∧ 1 ≤ height ∧ data.length = bytesForDots width * height := by
  constructor
  · rintro ⟨b, h⟩
    obtain ⟨rfl, rfl, rfl⟩ := ofData_eq_ok_iff.1 h
    exact ⟨b.width_pos, b.height_pos, b.data_length⟩
  · rintro ⟨hwidth', hheight', hlength⟩
    exact ⟨⟨width, height, data, hwidth', hwidth, hheight', hheight, hlength⟩,
      ofData_eq_ok_iff.2 ⟨rfl, rfl, rfl⟩⟩

/-- `ofHex` reads a bitmap from the digits of its `bytes`, whatever their case and the white space
around them. -/
theorem ofHex_eq_ok_iff : ofHex s = .ok b ↔ Hex.pairs? (Text.trim s) = some b.bytes := by
  unfold ofHex
  constructor
  · intro h
    split at h
    · cases h
    · next w0 w1 h0 h1 data heq =>
      obtain ⟨hwidth, hheight, hdata⟩ := ofData_eq_ok_iff.1 h
      rw [Hex.decode_eq_ok_iff.1 heq, bytes, hwidth, hheight, hdata, wordBytes_toNat,
        wordBytes_toNat]
      rfl
    · cases h
  · intro h
    rw [Hex.decode_eq_ok_iff.2 h]
    simp only [bytes, wordBytes, List.cons_append, List.nil_append]
    rw [toNat_wordBytes b.width_le, toNat_wordBytes b.height_le, ofData_self]

theorem wordAt_of_pairs? {bytes : List UInt8} (h : Hex.pairs? s = some bytes) {i : Nat}
    (hi : i + 1 < bytes.length) : wordAt s i = bytes[i].toNat + 256 * bytes[i + 1].toNat := by
  rw [wordAt, Hex.toNat_getElem_of_pairs? h, Hex.toNat_getElem_of_pairs? h]

/-- The digits of `b.bytes` hold the width and the height of `b`. -/
theorem wordAt_of_bytes (h : Hex.pairs? s = some b.bytes) :
    wordAt s 0 = b.width ∧ wordAt s 2 = b.height := by
  have hlength : 3 < b.bytes.length := by simp [bytes, wordBytes]
  exact ⟨(wordAt_of_pairs? h (i := 0) (by omega)).trans (toNat_wordBytes b.width_le),
    (wordAt_of_pairs? h (i := 2) hlength).trans (toNat_wordBytes b.height_le)⟩

theorem exists_header {bytes : List UInt8} (h : 4 ≤ bytes.length) :
    ∃ w0 w1 h0 h1 data, bytes = w0 :: w1 :: h0 :: h1 :: data := by
  rcases bytes with _ | ⟨w0, _ | ⟨w1, _ | ⟨h0, _ | ⟨h1, data⟩⟩⟩⟩
  · exact absurd h (by simp)
  · exact absurd h (by simp)
  · exact absurd h (by simp)
  · exact absurd h (by simp)
  · exact ⟨w0, w1, h0, h1, data, rfl⟩

/-- The texts whose digits are the `bytes` of a bitmap are the descriptors. -/
theorem exists_bytes_iff : (∃ b : Bitmap, Hex.pairs? s = some b.bytes) ↔ IsDescriptor s := by
  constructor
  · rintro ⟨b, h⟩
    obtain ⟨heven, hdigits⟩ := Hex.exists_pairs?_iff.1 ⟨_, h⟩
    obtain ⟨hwidth, hheight⟩ := wordAt_of_bytes h
    have hlength : s.length = 2 * (b.data.length + 4) := by
      rw [Hex.length_of_pairs? h]
      simp [bytes, wordBytes]
    have hrows := b.data_length
    rw [bytesForDots_eq] at hrows
    refine ⟨heven, hdigits, by omega, hwidth ▸ b.width_pos, hheight ▸ b.height_pos, ?_⟩
    rw [hwidth, hheight, ← hrows]
    omega
  · intro h
    obtain ⟨bytes, hbytes⟩ := Hex.exists_pairs?_iff.2 ⟨h.even, h.digits⟩
    have hlength := Hex.length_of_pairs? hbytes
    have hfour : 4 ≤ bytes.length := by
      have hheader := h.header
      omega
    obtain ⟨w0, w1, h0, h1, data, rfl⟩ := exists_header hfour
    have hwidth : wordAt s 0 = w0.toNat + 256 * w1.toNat := wordAt_of_pairs? hbytes (by simp)
    have hheight : wordAt s 2 = h0.toNat + 256 * h1.toNat := wordAt_of_pairs? hbytes (by simp)
    have hrows := h.rows
    have hdata : data.length = s.length / 2 - 4 := by
      rw [hlength]
      simp
    rw [← hdata, ← bytesForDots_eq] at hrows
    have hw0 := w0.toNat_lt
    have hw1 := w1.toNat_lt
    have hh0 := h0.toNat_lt
    have hh1 := h1.toNat_lt
    have hwidthLe : wordAt s 0 ≤ 65535 := by omega
    have hheightLe : wordAt s 2 ≤ 65535 := by omega
    obtain ⟨b, hb⟩ :=
      (exists_ofData_iff hwidthLe hheightLe).2 ⟨h.width_pos, h.height_pos, hrows⟩
    obtain ⟨hbwidth, hbheight, hbdata⟩ := ofData_eq_ok_iff.1 hb
    refine ⟨b, ?_⟩
    rw [hbytes, Bitmap.bytes, hbwidth, hbheight, hbdata, hwidth, hheight, wordBytes_toNat,
      wordBytes_toNat]
    rfl

/-- `ofHex` inverts `toHex` on every bitmap that `ofData` accepts. The texts it reads are those with
`IsDescriptor (Text.trim s)`; the bitmap then has the width and the height of the header, and
`toHex` writes the trimmed text in lower case. -/
theorem ofHex_inverts_toHex :
    (∀ width height data b, ofData width height data = .ok b → ofHex b.toHex = .ok b) ∧
    ∀ s, ((∃ b, ofHex s = .ok b) ↔ IsDescriptor (Text.trim s)) ∧
      ∀ b, ofHex s = .ok b → b.toHex = Text.lower (Text.trim s) ∧
        b.width = wordAt (Text.trim s) 0 ∧ b.height = wordAt (Text.trim s) 2 := by
  refine ⟨fun _ _ _ b _ => ofHex_toHex b, fun s => ⟨?_, fun b h => ?_⟩⟩
  · rw [← exists_bytes_iff]
    exact exists_congr fun b => ofHex_eq_ok_iff
  · have hbytes := ofHex_eq_ok_iff.1 h
    obtain ⟨hwidth, hheight⟩ := wordAt_of_bytes hbytes
    exact ⟨Hex.encode_of_pairs? hbytes, hwidth.symm, hheight.symm⟩

example : (ofHex " 0A000200FFC08000\n".toList).map toHex = .ok "0a000200ffc08000".toList := by
  decide

end Bitmap

end ReceiptPrinter

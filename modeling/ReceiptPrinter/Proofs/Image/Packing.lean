import ReceiptPrinter.Image.Basic
import ReceiptPrinter.Proofs.Bitmap.Reading

/-!
# Pictures packed into bitmaps

The dots of a picture are packed bit by bit into bytes, byte by byte into rows, and row by row into
the data of a bitmap. `Bitmap.Shows` says that every bit is found where its column and its row say,
and that the bits after the last column are not set; it holds of the bitmap of `Image.pack`.
-/

namespace ReceiptPrinter

/-! ### Bits of a bitmap -/

namespace Bitmap

/-- The bit in column `x` and row `y`; the highest bit of a byte is in its first column. -/
def bit (b : Bitmap) (x y : Nat) : Bool :=
  (b.data.getD (y * b.rowBytes + x / 8) 0).toNat.testBit (7 - x % 8)

/-- Whether the bits of `b` show `dot`: set in its columns exactly where a dot is, and not set in
the columns that pad its rows to whole bytes. -/
structure Shows (b : Bitmap) (dot : Nat → Nat → Prop) : Prop where
  bit_iff : ∀ x y, x < b.width → y < b.height → (b.bit x y = true ↔ dot x y)
  padding : ∀ x y, b.width ≤ x → x < 8 * b.rowBytes → y < b.height → b.bit x y = false

end Bitmap

/-! ### Brightness -/

namespace Pixel

open Number

/-- The value of a channel with a weight in thousandths, in single precision. -/
def share (thousandths : Nat) (channel : UInt8) : Nat :=
  Format.single.mul (Format.single.ofDecimal thousandths (-3)) (Format.single.ofNat channel.toNat)

theorem getD_shares (thousandths : Nat) (channel : UInt8) :
    (shares thousandths).getD channel.toNat 0 = share thousandths channel := by
  have hlt : channel.toNat < 256 := channel.toNat_lt
  simp [shares, share, hlt]

/-- `luma` is the weighted sum of the channels, rounded down. -/
theorem luma_eq (p : Pixel) : p.luma = min 255 (Format.single.floor (Format.single.add
    (Format.single.add (share 299 p.red) (share 587 p.green)) (share 114 p.blue))) := by
  simp only [luma, redShares, greenShares, blueShares, getD_shares]

end Pixel

namespace Image

/-! ### Bytes -/

/-- The first `n` dots as the low bits of a byte, the last dot in the lowest. -/
def packDots (dot : Nat → Bool) (n : Nat) : UInt8 :=
  (List.range n).foldl (fun byte bit => 2 * byte + if dot bit then 1 else 0) 0

theorem packByte_eq (dot : Nat → Bool) : packByte dot = packDots dot 8 := rfl

theorem toNat_packDots_succ (dot : Nat → Bool) {n : Nat} (h : (packDots dot n).toNat < 2 ^ 7) :
    (packDots dot (n + 1)).toNat = 2 * (packDots dot n).toNat + (dot n).toNat := by
  have hnext : packDots dot (n + 1) = 2 * packDots dot n + if dot n then 1 else 0 := by
    rw [packDots, List.range_succ, List.foldl_append]
    rfl
  have htwo : (2 : UInt8).toNat = 2 := rfl
  have hdot : (if dot n then 1 else 0 : UInt8).toNat = (dot n).toNat := by
    cases dot n <;> rfl
  have hle := Bool.toNat_le (dot n)
  rw [hnext, UInt8.toNat_add, UInt8.toNat_mul, htwo, hdot]
  omega

/-- The bits of `packDots dot n`; that they fill `n` bits carries the induction. -/
theorem testBit_packDots (dot : Nat → Bool) {n : Nat} (hn : n ≤ 8) :
    (packDots dot n).toNat < 2 ^ n ∧
      ∀ i < n, (packDots dot n).toNat.testBit (n - 1 - i) = dot i := by
  induction n with
  | zero => exact ⟨Nat.zero_lt_one, fun i hi => absurd hi (Nat.not_lt_zero i)⟩
  | succ n ih =>
    obtain ⟨hlt, hbits⟩ := ih (Nat.le_of_succ_le hn)
    have hpow : 2 ^ n ≤ 2 ^ 7 := Nat.pow_le_pow_right (by decide) (Nat.le_of_succ_le_succ hn)
    have hle := Bool.toNat_le (dot n)
    rw [toNat_packDots_succ dot (Nat.lt_of_lt_of_le hlt hpow)]
    refine ⟨by rw [Nat.pow_succ]; omega, fun i hi => ?_⟩
    by_cases hlast : i = n
    · subst hlast
      rw [Nat.add_sub_cancel, Nat.sub_self, Nat.testBit_zero, Nat.mul_add_mod]
      cases dot i <;> rfl
    · have hi : i < n := Nat.lt_of_le_of_ne (Nat.le_of_lt_succ hi) hlast
      have hplace : n + 1 - 1 - i = (n - 1 - i) + 1 := by omega
      have hhalf : (2 * (packDots dot n).toNat + (dot n).toNat) / 2 = (packDots dot n).toNat := by
        omega
      rw [hplace, Nat.testBit_succ, hhalf, hbits i hi]

theorem testBit_packByte (dot : Nat → Bool) {i : Nat} (hi : i < 8) :
    (packByte dot).toNat.testBit (7 - i) = dot i := by
  rw [packByte_eq]
  exact (testBit_packDots dot (Nat.le_refl 8)).2 i hi

/-! ### Rows -/

@[simp] theorem length_packRow (image : Image) (y : Nat) :
    (image.packRow y).length = bytesForDots image.width := by
  simp [packRow]

theorem getElem?_packRow (image : Image) (y : Nat) {i : Nat} (hi : i < bytesForDots image.width) :
    (image.packRow y)[i]? = some (packByte fun bit =>
      decide (8 * i + bit < image.width) && (image.pixel (8 * i + bit) y).isBlack) := by
  simp [packRow, hi]

theorem length_pack (image : Image) :
    image.pack.length = bytesForDots image.width * image.height := by
  simp [pack, List.length_flatMap, Nat.mul_comm]

theorem getElem?_flatMap_of_length {α β : Type} {f : α → List β} {k j : Nat}
    (hf : ∀ a, (f a).length = k) (hj : j < k) (l : List α) (i : Nat) :
    (l.flatMap f)[i * k + j]? = l[i]?.bind fun a => (f a)[j]? := by
  induction l generalizing i with
  | nil => simp
  | cons a l ih =>
    rw [List.flatMap_cons]
    cases i with
    | zero =>
      rw [Nat.zero_mul, Nat.zero_add, List.getElem?_append_left (by rw [hf]; exact hj)]
      rfl
    | succ i =>
      have hplace : (i + 1) * k + j = k + (i * k + j) := by rw [Nat.succ_mul]; omega
      rw [hplace, List.getElem?_append_right (by rw [hf]; exact Nat.le_add_right _ _), hf,
        Nat.add_sub_cancel_left, ih]
      rfl

theorem getElem?_pack (image : Image) {i y : Nat} (hi : i < bytesForDots image.width)
    (hy : y < image.height) : image.pack[y * bytesForDots image.width + i]? = some
      (packByte fun bit =>
        decide (8 * i + bit < image.width) && (image.pixel (8 * i + bit) y).isBlack) := by
  rw [pack, getElem?_flatMap_of_length image.length_packRow hi, List.getElem?_range hy]
  exact getElem?_packRow image y hi

/-! ### Bitmaps -/

variable {image : Image} {b : Bitmap}

/-- Whether the pixel in column `x` and row `y` is printed: at least half opaque, and darker than
half of the brightness. -/
def IsBlack (image : Image) (x y : Nat) : Prop :=
  128 ≤ (image.pixel x y).opacity.toNat ∧ (image.pixel x y).luma < 128

theorem isBlack_iff {x y : Nat} : (image.pixel x y).isBlack = true ↔ image.IsBlack x y := by
  rw [Pixel.isBlack, Bool.and_eq_true, decide_eq_true_iff, decide_eq_true_iff]
  exact Iff.rfl

/-- The bits of a bitmap of `image.pack` are the black pixels, and none after the last column. -/
theorem bit_of_data_eq (hwidth : b.width = image.width) (hheight : b.height = image.height)
    (hdata : b.data = image.pack) {x y : Nat} (hx : x < 8 * b.rowBytes) (hy : y < b.height) :
    b.bit x y = (decide (x < b.width) && (image.pixel x y).isBlack) := by
  have hbyte : x / 8 < bytesForDots image.width := by
    rw [← hwidth]
    exact Nat.div_lt_of_lt_mul hx
  have hdot := Nat.div_add_mod x 8
  rw [Bitmap.bit, hdata, Bitmap.rowBytes, hwidth, List.getD_eq_getElem?_getD,
    getElem?_pack image hbyte (hheight ▸ hy), Option.getD_some,
    testBit_packByte _ (Nat.mod_lt x (by decide)), hdot]

/-- `ofData` accepts `image.pack` if bitmaps may have the size; the bitmap shows `image.IsBlack`. -/
theorem exists_ofData_pack (hwidth : 1 ≤ image.width) (hwidth' : image.width ≤ 65535)
    (hheight : 1 ≤ image.height) (hheight' : image.height ≤ 65535) :
    ∃ b, Bitmap.ofData image.width image.height image.pack = .ok b ∧
      b.width = image.width ∧ b.height = image.height ∧ b.Shows image.IsBlack := by
  obtain ⟨b, hb⟩ := (Bitmap.exists_ofData_iff hwidth' hheight').2
    ⟨hwidth, hheight, image.length_pack⟩
  obtain ⟨hbwidth, hbheight, hbdata⟩ := Bitmap.ofData_eq_ok_iff.1 hb
  refine ⟨b, hb, hbwidth, hbheight, fun x y hx hy => ?_, fun x y hx hrow hy => ?_⟩
  · have hrow : x < 8 * b.rowBytes := by
      rw [Bitmap.rowBytes, bytesForDots]
      omega
    rw [bit_of_data_eq hbwidth hbheight hbdata hrow hy, decide_eq_true hx, Bool.true_and,
      isBlack_iff]
  · rw [bit_of_data_eq hbwidth hbheight hbdata hrow hy, decide_eq_false (Nat.not_lt.2 hx),
      Bool.false_and]

/-! ### Pictures fitted to the paper -/

variable {most : Nat}

theorem width_fit_le (image : Image) (most : Nat) : (image.fit most).width ≤ most := by
  unfold fit
  split
  · exact Nat.le_refl most
  · next h => exact Nat.le_of_not_lt h

theorem rasterize_eq_ok_iff : image.rasterize most = .ok b ↔
    image.width ≠ 0 ∧ image.height ≠ 0 ∧
      Bitmap.ofData (image.fit most).width (image.fit most).height (image.fit most).pack =
        .ok b := by
  unfold rasterize
  by_cases hempty : image.width = 0 ∨ image.height = 0
  · rw [if_pos hempty]
    refine iff_of_false nofun ?_
    rintro ⟨hwidth, hheight, -⟩
    exact hempty.elim hwidth hheight
  · rw [if_neg hempty]
    have hpixel := not_or.1 hempty
    dsimp only
    cases Bitmap.ofData (image.fit most).width (image.fit most).height (image.fit most).pack with
    | ok bitmap => simp [hpixel]
    | error fault => simp

/-- `rasterize` succeeds if bitmaps may have the size of `image.fit most`. -/
theorem exists_rasterize {shown : Image} (hwidth : image.width ≠ 0) (hheight : image.height ≠ 0)
    (hfit : image.fit most = shown) (hshown : 1 ≤ shown.width) (hshown' : shown.width ≤ 65535)
    (hrows : 1 ≤ shown.height) (hrows' : shown.height ≤ 65535) :
    ∃ b, image.rasterize most = .ok b ∧ b.width = shown.width ∧ b.height = shown.height ∧
      b.Shows shown.IsBlack := by
  obtain ⟨b, hb, hbwidth, hbheight, hshows⟩ := exists_ofData_pack hshown hshown' hrows hrows'
  subst hfit
  exact ⟨b, rasterize_eq_ok_iff.2 ⟨hwidth, hheight, hb⟩, hbwidth, hbheight, hshows⟩

theorem exists_rasterize_of_le (hwidth : 1 ≤ image.width) (hfits : image.width ≤ most)
    (hmost : most ≤ 65535) (hheight : 1 ≤ image.height) (hheight' : image.height ≤ 65535) :
    ∃ b, image.rasterize most = .ok b ∧ b.width = image.width ∧ b.height = image.height ∧
      b.Shows image.IsBlack :=
  exists_rasterize (Nat.ne_of_gt hwidth) (Nat.ne_of_gt hheight) (if_neg (Nat.not_lt.2 hfits))
    hwidth (Nat.le_trans hfits hmost) hheight hheight'

theorem one_le_scaledHeight (image : Image) (width : Nat) : 1 ≤ image.scaledHeight width :=
  Nat.le_max_left _ _

theorem exists_rasterize_of_lt (hwide : most < image.width) (hmost : 1 ≤ most)
    (hmost' : most ≤ 65535) (hheight : 1 ≤ image.height)
    (hscaled : image.scaledHeight most ≤ 65535) :
    ∃ b, image.rasterize most = .ok b ∧ b.width = most ∧ b.height = image.scaledHeight most ∧
      b.Shows (image.resize most (image.scaledHeight most)).IsBlack :=
  exists_rasterize (Nat.ne_of_gt (Nat.zero_lt_of_lt hwide)) (Nat.ne_of_gt hheight)
    (if_pos hwide) hmost hmost' (image.one_le_scaledHeight most) hscaled

/-- `rasterize` keeps to the width `most`. -/
theorem width_le_of_rasterize (h : image.rasterize most = .ok b) : b.width ≤ most := by
  obtain ⟨-, -, hdata⟩ := rasterize_eq_ok_iff.1 h
  rw [(Bitmap.ofData_eq_ok_iff.1 hdata).1]
  exact image.width_fit_le most

end Image

end ReceiptPrinter

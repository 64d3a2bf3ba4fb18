import ReceiptPrinter.Proofs.Image.Packing
import ReceiptPrinter.Proofs.Receipt.Composition
import ReceiptPrinter.Proofs.Spooler.Appended

/-!
# Pictures made for the paper

A picture is made into a bitmap for the paper of the installed configuration, and is written into
markup that is read again. The bitmap of `Image.rasterize` has the size of the picture, or the width
of the paper, and its bits are the black pixels. It is `NeverTooWide`: no receipt under that
configuration is rejected because of it, whichever call it came with and whatever decoder read it.
-/

namespace ReceiptPrinter

open Markup Receipt Number

/-! ### Receipts that are rejected for a picture -/

variable {config : Config}

theorem Barcode.commands_ne_pictureTooWide (b : Barcode) {width dots : Nat} :
    b.commands config ≠ .error (.pictureTooWide width dots) := by
  intro h
  obtain h | ⟨data, -, h⟩ := bind_eq_error_iff.1 h
  · unfold Barcode.data at h
    split at h <;> cases h
  · dsimp only at h
    split at h <;> cases h

theorem QrCode.commands_ne_pictureTooWide (q : QrCode) {width dots : Nat} :
    q.commands config ≠ .error (.pictureTooWide width dots) := by
  intro h
  unfold QrCode.commands at h
  dsimp only at h
  split at h
  · cases h
  · split at h
    · cases h
    · rw [map_eq_error_iff] at h
      unfold QrCode.moduleDots at h
      dsimp only at h
      split at h <;> cases h

namespace Picture

theorem exists_segments_iff {p : Picture} :
    (∃ segments, p.segments config = .ok segments) ↔ p.bitmap.width ≤ config.printableDots := by
  unfold segments
  split
  · next hwide => exact iff_of_false nofun (Nat.not_le.2 hwide)
  · next hfits =>
    refine iff_of_true ?_ (Nat.le_of_not_lt hfits)
    split
    · exact ⟨_, rfl⟩
    · exact ⟨_, rfl⟩

theorem segments_eq_error_iff {p : Picture} {e : EncodingError} :
    p.segments config = .error e ↔ config.printableDots < p.bitmap.width ∧
      e = .pictureTooWide p.bitmap.width config.printableDots := by
  unfold segments
  split
  · next hwide => simp [hwide, eq_comm]
  · next hfits =>
    refine iff_of_false (fun h => ?_) fun h => hfits h.1
    split at h <;> cases h

/-- Whether no receipt is rejected because `p` is too wide: `p` has segments, and where a receipt is
rejected so, it holds another picture that is wider than the paper. -/
structure NeverTooWide (config : Config) (p : Picture) : Prop where
  segments : ∃ segments, p.segments config = .ok segments
  another : ∀ feedLines es width dots,
    encodeWithFeed config feedLines es = .error (.pictureTooWide width dots) →
    ∃ q, .picture q ∈ es ∧ q ≠ p ∧ q.bitmap.width = width ∧ dots = config.printableDots ∧
      dots < width

end Picture

theorem Receipt.exists_picture_of_blockSegments {e : Element} {width dots : Nat}
    (h : blockSegments config e = .error (.pictureTooWide width dots)) :
    ∃ p, e = .picture p ∧ p.bitmap.width = width ∧ dots = config.printableDots ∧ dots < width := by
  cases e with
  | text run => cases h
  | picture p =>
    obtain ⟨hwide, heq⟩ := Picture.segments_eq_error_iff.1 h
    cases heq
    exact ⟨p, rfl, rfl, rfl, hwide⟩
  | barcode b => exact absurd (map_eq_error_iff.1 h) b.commands_ne_pictureTooWide
  | qrCode q => exact absurd (map_eq_error_iff.1 h) q.commands_ne_pictureTooWide
  | feed n => cases h

theorem Picture.neverTooWide_of_width_le {p : Picture}
    (h : p.bitmap.width ≤ config.printableDots) : p.NeverTooWide config := by
  refine ⟨exists_segments_iff.2 h, fun feedLines es width dots hrejected => ?_⟩
  obtain ⟨before, e, after, rfl, -, he⟩ := (encodeWithFeed_eq_error_iff config).1 hrejected
  obtain ⟨q, rfl, hwidth, hdots, hwide⟩ := exists_picture_of_blockSegments he
  refine ⟨q, List.mem_append_right _ List.mem_cons_self, ?_, hwidth, hdots, hwide⟩
  rintro rfl
  omega

/-! ### Pictures given as text -/

namespace Spooler

variable {s : Spooler} {decode : PictureDecoder} {base64 : Text} {bitmap : Bitmap}

theorem exists_rasterize_of_readPicture (h : readPicture decode config base64 = .ok bitmap) :
    ∃ image : Image, image.rasterize config.printableDots = .ok bitmap := by
  unfold readPicture at h
  split at h
  · next fitted hfitted =>
    cases h
    unfold Bitmap.ofBase64 at hfitted
    split at hfitted
    · cases hfitted
    · split at hfitted
      · cases hfitted
      · next image _ => exact ⟨image, hfitted⟩
  · cases h

theorem neverTooWide_of_rasterize {image : Image}
    (h : image.rasterize config.printableDots = .ok bitmap) :
    Picture.NeverTooWide config { bitmap } :=
  Picture.neverTooWide_of_width_le (Image.width_le_of_rasterize h)

theorem neverTooWide_of_readPicture (h : readPicture decode config base64 = .ok bitmap) :
    Picture.NeverTooWide config { bitmap } := by
  obtain ⟨image, himage⟩ := exists_rasterize_of_readPicture h
  exact neverTooWide_of_rasterize himage

/-! ### Jobs -/

theorem submit_eq_ok {markup : Text} {feed : Option Number.Single} {p : Nat × Spooler}
    (hconfig : s.config = some config) (h : s.submit markup feed = .ok p) :
    ∃ es, parse markup = .ok es ∧
      p.2.jobs = s.jobs ++ [{ body := .elements es feed, config }] := by
  unfold submit at h
  split at h
  · cases h
  · next es hparse =>
    obtain ⟨installed, hinstalled, rfl⟩ := enqueue_eq_ok h
    cases hconfig.symm.trans hinstalled
    exact ⟨es, hparse, rfl⟩

theorem appendPicture_eq_ok (hconfig : s.config = some config) {buffer : Buffer}
    (h : s.appended (.appendPicture base64 decode) = .ok buffer) :
    ∃ bitmap, readPicture decode config base64 = .ok bitmap ∧
      buffer.lines = s.buffer.lines ++ [Markup.printPicture { bitmap }] := by
  obtain ⟨installed, hinstalled, h⟩ := bind_eq_ok_iff.1 h
  cases hconfig.symm.trans (requireConfig_eq_ok_iff.1 hinstalled)
  obtain ⟨bitmap, hbitmap, h⟩ := bind_eq_ok_iff.1 h
  cases h
  exact ⟨bitmap, hbitmap, rfl⟩

theorem printPicture_eq_ok (hconfig : s.config = some config) {p : Nat × Spooler}
    (h : s.printPicture base64 decode = .ok p) :
    ∃ bitmap, readPicture decode config base64 = .ok bitmap ∧ p.2.jobs = s.jobs ++
      [{ body := .elements [.picture { bitmap }, .feed 1] (some helperFeed), config }] := by
  obtain ⟨installed, hinstalled, h⟩ := bind_eq_ok_iff.1 h
  cases hconfig.symm.trans (requireConfig_eq_ok_iff.1 hinstalled)
  obtain ⟨bitmap, hbitmap, h⟩ := bind_eq_ok_iff.1 h
  obtain ⟨es, hparse, hjobs⟩ := submit_eq_ok hconfig h
  have hpieces := Buffer.standFor_pieces (.cons (.picture bitmap) (.cons (.feed 1) .nil))
  cases hparse.symm.trans (hpieces.parse_join (List.cons_ne_nil _ _))
  exact ⟨bitmap, hbitmap, hjobs⟩

theorem exists_segments_of_neverTooWide (h : Picture.NeverTooWide config { bitmap }) :
    ∃ segments, Job.segments
      { body := .elements [.picture { bitmap }, .feed 1] (some helperFeed), config } =
        .ok segments := by
  obtain ⟨bands, hbands⟩ := h.segments
  have hencode : ∃ receipt, encodeWithFeed config helperFeed [.picture { bitmap }, .feed 1] =
      .ok receipt := by
    rw [exists_eq_ok_iff]
    intro e he
    rw [encodeWithFeed_eq_error_iff, firstFailure_cons, firstFailure_cons] at he
    obtain he | ⟨-, he | ⟨-, he⟩⟩ := he
    · cases hbands.symm.trans he
    · cases he
    · exact firstFailure_nil he
  obtain ⟨receipt, hreceipt⟩ := hencode
  exact ⟨_, bind_eq_ok_iff.2 ⟨receipt, hreceipt, rfl⟩⟩

/-- The elements of a direct print that is accepted hold its pictures (`Draws`). -/
theorem directPrint_eq_ok (hconfig : s.config = some config) {request : DirectPrint}
    {p : Nat × Spooler} (h : s.directPrint request decode = .ok p) :
    ∃ es, p.2.jobs = s.jobs ++ [{ body := .elements es none, config }] ∧
      Draws decode config request.logo es ∧ Draws decode config request.picture es := by
  obtain ⟨installed, hinstalled, h⟩ := bind_eq_ok_iff.1 h
  cases hconfig.symm.trans (requireConfig_eq_ok_iff.1 hinstalled)
  obtain ⟨markup, hmarkup, h⟩ := bind_eq_ok_iff.1 h
  obtain ⟨all, hparse, hjobs⟩ := submit_eq_ok hconfig h
  obtain ⟨first, es, last, es', hfirst, hlast, -, hlogo, hpicture, rfl⟩ :=
    exists_lines_of_directMarkup hmarkup
  refine ⟨all, hjobs, hlogo.mono fun p hp => ?_, hpicture.mono fun p hp => ?_⟩
  · rw [List.append_assoc, ← List.nil_append (first ++ _)] at hparse
    exact hfirst.mem_of_parse hparse hp nofun
  · rw [← List.append_nil last] at hparse
    exact hlast.mem_of_parse hparse hp nofun

/-! ### All pictures -/

theorem printableDots_bounds (config : Config) :
    1 ≤ config.printableDots ∧ config.printableDots ≤ 65535 := by
  rw [Config.printableDots]
  rcases config.geometry with ⟨_ | _, _ | _⟩ <;> decide

/-- `rasterize` makes a picture of a size that the paper and a bitmap have a bitmap of that size,
set where the picture `IsBlack`, and a wider one a bitmap as wide as the paper, set where its
`resize` is black. What it returns is `NeverTooWide`. So is, with any decoder, the bitmap of every
call that is accepted, and that bitmap is among the elements of the job or of each later reading of
the buffer. -/
theorem rasterize_shows_and_fits (config : Config) :
    (∀ image : Image, 1 ≤ image.width → image.width ≤ config.printableDots →
      1 ≤ image.height → image.height ≤ 65535 →
      ∃ bitmap, image.rasterize config.printableDots = .ok bitmap ∧
        bitmap.width = image.width ∧ bitmap.height = image.height ∧
        bitmap.Shows image.IsBlack) ∧
    (∀ image : Image, config.printableDots < image.width → 1 ≤ image.height →
      image.scaledHeight config.printableDots ≤ 65535 →
      ∃ bitmap, image.rasterize config.printableDots = .ok bitmap ∧
        bitmap.width = config.printableDots ∧
        bitmap.height = image.scaledHeight config.printableDots ∧
        bitmap.Shows (image.resize config.printableDots
          (image.scaledHeight config.printableDots)).IsBlack) ∧
    (∀ (image : Image) bitmap, image.rasterize config.printableDots = .ok bitmap →
      Picture.NeverTooWide config { bitmap }) ∧
    (∀ (s : Spooler) base64 decode buffer, s.config = some config →
      s.appended (.appendPicture base64 decode) = .ok buffer →
      ∃ bitmap, readPicture decode config base64 = .ok bitmap ∧
        Picture.NeverTooWide config { bitmap } ∧
        ∀ more es, parse (Text.join '\n' (buffer.lines ++ more)) = .ok es →
          .picture { bitmap } ∈ es) ∧
    (∀ (s : Spooler) base64 decode job s', s.config = some config →
      s.printPicture base64 decode = .ok (job, s') →
      ∃ bitmap j, readPicture decode config base64 = .ok bitmap ∧
        Picture.NeverTooWide config { bitmap } ∧ s'.jobs = s.jobs ++ [j] ∧ j.config = config ∧
        j.body = .elements [.picture { bitmap }, .feed 1] (some helperFeed) ∧
        ∃ segments, j.segments = .ok segments) ∧
    ∀ (s : Spooler) request decode job s', s.config = some config →
      s.directPrint request decode = .ok (job, s') →
      ∃ es j, s'.jobs = s.jobs ++ [j] ∧ j.config = config ∧ j.body = .elements es none ∧
        ∀ base64, base64 ≠ [] → request.logo = some base64 ∨ request.picture = some base64 →
          ∃ bitmap, readPicture decode config base64 = .ok bitmap ∧
            Picture.NeverTooWide config { bitmap } ∧ .picture { bitmap } ∈ es := by
  have hdots := printableDots_bounds config
  refine ⟨fun image hwidth hfits hheight hheight' => ?_, fun image hwide hheight hheight' => ?_,
    fun image bitmap h => neverTooWide_of_rasterize h,
    fun s base64 decode buffer hconfig h => ?_, fun s base64 decode job s' hconfig h => ?_,
    fun s request decode job s' hconfig h => ?_⟩
  · exact Image.exists_rasterize_of_le hwidth hfits hdots.2 hheight hheight'
  · exact Image.exists_rasterize_of_lt hwide hdots.1 hdots.2 hheight hheight'
  · obtain ⟨bitmap, hbitmap, hlines⟩ := appendPicture_eq_ok hconfig h
    refine ⟨bitmap, hbitmap, neverTooWide_of_readPicture hbitmap, fun more es hparse => ?_⟩
    rw [hlines, List.append_assoc] at hparse
    exact (Buffer.standFor_of_means (.picture bitmap)).mem_of_parse hparse
      List.mem_cons_self nofun
  · obtain ⟨bitmap, hbitmap, hjobs⟩ := printPicture_eq_ok hconfig h
    have hnever := neverTooWide_of_readPicture hbitmap
    exact ⟨bitmap, _, hbitmap, hnever, hjobs, rfl, rfl, exists_segments_of_neverTooWide hnever⟩
  · obtain ⟨es, hjobs, hlogo, hpicture⟩ := directPrint_eq_ok hconfig h
    refine ⟨es, _, hjobs, rfl, rfl, fun base64 hne hpart => ?_⟩
    obtain ⟨bitmap, hbitmap, hmem⟩ := hpart.elim (fun heq => hlogo base64 heq hne)
      fun heq => hpicture base64 heq hne
    exact ⟨bitmap, hbitmap, neverTooWide_of_readPicture hbitmap, hmem⟩

/-- Nine columns by two rows, black and white in turn, with a black pixel that is not opaque. -/
def chequered : Image where
  width := 9
  height := 2
  pixel := fun x y =>
    if x = 0 ∧ y = 0 then ⟨0, 0, 0, 127⟩
    else if (x + y) % 2 = 0 then ⟨0, 0, 0, 255⟩
    else ⟨255, 255, 255, 255⟩

theorem rasterize_shows_chequered : ∃ config bitmap,
    Config.build { host := some "a".toList } = .ok config ∧ config.printableDots = 384 ∧
      chequered.rasterize config.printableDots = .ok bitmap ∧
      bitmap.width = 9 ∧ bitmap.height = 2 ∧ bitmap.bit 0 0 = false ∧ bitmap.bit 8 0 = true ∧
      bitmap.bit 8 1 = false ∧ ∀ x, 9 ≤ x → x < 16 → bitmap.bit x 1 = false := by
  let config : Config := ⟨{}, .full, true, true, .zero, .gbk, .network "a".toList 9100 30⟩
  obtain ⟨hfits, -⟩ := rasterize_shows_and_fits config
  obtain ⟨bitmap, hbitmap, hwidth, hheight, hshows⟩ :=
    hfits chequered (by decide) (by decide) (by decide) (by decide)
  have hwidth : bitmap.width = 9 := hwidth
  have hheight : bitmap.height = 2 := hheight
  have hbit := fun x y hx hy => hshows.bit_iff x y (hwidth ▸ hx) (hheight ▸ hy)
  have hblack : chequered.IsBlack 8 0 := by
    refine ⟨by decide, ?_⟩
    rw [Pixel.luma_eq]
    decide +kernel
  have hwhite : ¬chequered.IsBlack 8 1 := by
    rintro ⟨-, hdark⟩
    rw [Pixel.luma_eq] at hdark
    revert hdark
    decide +kernel
  have hclear : ¬chequered.IsBlack 0 0 := fun h => absurd h.1 (by decide)
  refine ⟨config, bitmap, rfl, rfl, hbitmap, hwidth, hheight, ?_, ?_, ?_, fun x hx hx' => ?_⟩
  · exact Bool.eq_false_iff.2 fun h => hclear ((hbit 0 0 (by decide) (by decide)).1 h)
  · exact (hbit 8 0 (by decide) (by decide)).2 hblack
  · exact Bool.eq_false_iff.2 fun h => hwhite ((hbit 8 1 (by decide) (by decide)).1 h)
  · refine hshows.padding x 1 (hwidth ▸ hx) ?_ (hheight ▸ by decide)
    rw [Bitmap.rowBytes, hwidth]
    exact hx'

end Spooler

end ReceiptPrinter

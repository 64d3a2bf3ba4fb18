import ReceiptPrinter.Proofs.Markup.RoundTrip

/-!
# Elements that markup can say

Not every list of elements has a markup text of its own: text in which a tag starts would be read as
that tag, neighbouring feeds would be joined. `Expressible` says which lists have one: they are
those that `parse` gives back from `serialize`, so printing tells them apart.
-/

namespace ReceiptPrinter

namespace Markup

/-! ### Text in which no tag starts -/

/-- Whether `s` holds no alignment tag and no bracket that starts a tag. -/
structure TagFree (s : Text) : Prop where
  no_align : ∀ a, ¬alignTag a <:+: s
  no_bracket : ∀ c : Char, c.isAlpha = true ∨ c = '/' → ¬['<', c] <:+: s

theorem readAlign?_eq_none_iff {s : Text} : readAlign? s = none ↔ ∀ a, ¬alignTag a <+: s := by
  constructor
  · rintro h a ⟨rest, hrest⟩
    rw [readAlign?_eq_some_iff.2 hrest.symm] at h
    cases h
  · intro h
    cases hs : readAlign? s with
    | none => rfl
    | some p =>
      obtain ⟨a, rest⟩ := p
      exact absurd ⟨rest, (readAlign?_eq_some_iff.1 hs).symm⟩ (h a)

theorem startsTag_eq_false_iff {s : Text} :
    startsTag s = false ↔ ∀ c : Char, c.isAlpha = true ∨ c = '/' → ¬['<', c] <+: s := by
  constructor
  · rintro h c hc ⟨rest, rfl⟩
    have hstarts : startsTag ('<' :: c :: rest) = true := by
      rw [startsTag, Bool.or_eq_true, beq_iff_eq]
      exact hc
    rw [List.cons_append, List.singleton_append, hstarts] at h
    cases h
  · intro h
    unfold startsTag
    split
    · next c rest =>
      rw [Bool.eq_false_iff]
      intro hc
      rw [Bool.or_eq_true, beq_iff_eq] at hc
      exact h c hc ⟨rest, rfl⟩
    · rfl

theorem isPlain_iff_tagFree {s : Text} : isPlain s = true ↔ TagFree s := by
  induction s with
  | nil =>
    refine ⟨fun _ => ⟨fun a h => ?_, fun c _ h => ?_⟩, fun _ => rfl⟩
    · have hnil := List.infix_nil.1 h
      cases a <;> cases hnil
    · cases List.infix_nil.1 h
  | cons c s ih =>
    rw [isPlain_cons, ih, readAlign?_eq_none_iff, startsTag_eq_false_iff]
    constructor
    · rintro ⟨halign, htag, hs⟩
      refine ⟨fun a h => ?_, fun d hd h => ?_⟩
      · exact (List.infix_cons_iff.1 h).elim (halign a) (hs.no_align a)
      · exact (List.infix_cons_iff.1 h).elim (htag d hd) (hs.no_bracket d hd)
    · intro h
      refine ⟨fun a hpre => h.no_align a hpre.isInfix,
        fun d hd hpre => h.no_bracket d hd hpre.isInfix, ⟨fun a hin => ?_, fun d hd hin => ?_⟩⟩
      · exact h.no_align a (hin.trans (List.suffix_cons c s).isInfix)
      · exact h.no_bracket d hd (hin.trans (List.suffix_cons c s).isInfix)

end Markup

namespace Element

open Markup

/-- Elements that have a markup text of their own. -/
structure Expressible (es : List Element) : Prop where
  nonempty : es ≠ []
  text : ∀ run, .text run ∈ es → run.content ≠ [] ∧ '\n' ∉ run.content ∧ TagFree run.content
  barcode : ∀ b, .barcode b ∈ es → Text.trim b.content = b.content ∧ '\n' ∉ b.content ∧
    ¬HasClosing BlockKind.barcode.closing b.content ∧ b.height.isFinitePositive = true ∧
      ∀ w ∈ b.width, w.isFinitePositive = true
  qrCode : ∀ q, .qrCode q ∈ es → 1 ≤ q.moduleSize ∧ '\n' ∉ q.content ∧
    ¬HasClosing BlockKind.qrCode.closing q.content
  feed : ∀ n, .feed n ∈ es → 1 ≤ n
  /-- A run that does not end its line is followed by another run. -/
  lines_end : LinesEnd es
  feeds_apart : FeedsApart es
  /-- A carriage return at the end of a line would belong to the line ending. -/
  keeps_return : ∀ run, .text run ∈ es → run.endsLine = true → run.style = {} →
    run.content.getLast? ≠ some '\r'

variable {es : List Element}

theorem one_le_iff_pos {size : UInt8} : 1 ≤ size ↔ 0 < size := by
  rw [UInt8.le_iff_toNat_le, UInt8.lt_iff_toNat_lt]
  exact Iff.rfl

theorem Expressible.sound (h : Expressible es) : ∀ e ∈ es, e.Sound := by
  intro e he
  cases e with
  | text run =>
    obtain ⟨hne, -, hfree⟩ := h.text run he
    exact ⟨hne, isPlain_iff_tagFree.2 hfree⟩
  | picture p => trivial
  | barcode b =>
    obtain ⟨htrim, -, hclosing, hlengths⟩ := h.barcode b he
    exact ⟨htrim, hclosing, hlengths⟩
  | qrCode q =>
    obtain ⟨hsize, -, hclosing⟩ := h.qrCode q he
    exact ⟨one_le_iff_pos.1 hsize, hclosing⟩
  | feed n => exact h.feed n he

theorem Expressible.one_line (h : Expressible es) : ∀ e ∈ es, '\n' ∉ e.content := by
  intro e he
  cases e with
  | text run => exact (h.text run he).2.1
  | picture p => simp [content]
  | barcode b => exact (h.barcode b he).2.1
  | qrCode q => exact (h.qrCode q he).2.1
  | feed n => simp [content]

/-- `Expressible` is `Canonical` without a line that loses a carriage return. -/
theorem expressible_iff :
    Expressible es ↔ es ≠ [] ∧ Canonical es ∧ ¬LosesReturn es := by
  constructor
  · intro h
    refine ⟨h.nonempty, ⟨h.sound, h.one_line, h.lines_end, h.feeds_apart⟩, ?_⟩
    rintro ⟨run, hrun, hends, hstyle, hlast⟩
    exact h.keeps_return run hrun hends hstyle hlast
  · rintro ⟨hne, hcanonical, hkeeps⟩
    constructor
    case nonempty => exact hne
    case text =>
      intro run hrun
      obtain ⟨hcontent, hplain⟩ := hcanonical.sound _ hrun
      exact ⟨hcontent, hcanonical.one_line _ hrun, isPlain_iff_tagFree.1 hplain⟩
    case barcode =>
      intro b hb
      obtain ⟨htrim, hclosing, hlengths⟩ := hcanonical.sound _ hb
      exact ⟨htrim, hcanonical.one_line _ hb, hclosing, hlengths⟩
    case qrCode =>
      intro q hq
      obtain ⟨hsize, hclosing⟩ := hcanonical.sound _ hq
      exact ⟨one_le_iff_pos.2 hsize, hcanonical.one_line _ hq, hclosing⟩
    case feed => exact fun n hn => hcanonical.sound _ hn
    case lines_end => exact hcanonical.lines_end
    case feeds_apart => exact hcanonical.feeds_apart
    case keeps_return =>
      exact fun run hrun hends hstyle hlast => hkeeps ⟨run, hrun, hends, hstyle, hlast⟩

end Element

namespace Markup

open Element

/-- Elements that `parse` gives back from `serialize es` are `Expressible`. -/
theorem expressible_of_parse_serialize {es : List Element} (h : parse (serialize es) = .ok es) :
    Expressible es := by
  obtain ⟨hne, hcanonical, -⟩ := parse_canonical h
  exact expressible_iff.2 ⟨hne, hcanonical, fun hloses => parse_serialize_ne hne hcanonical hloses h⟩

theorem parse_serialize_of_expressible {es : List Element} (h : Expressible es) :
    parse (serialize es) = .ok es := by
  obtain ⟨hne, hcanonical, hkeeps⟩ := expressible_iff.1 h
  exact parse_serialize_of_canonical hne hcanonical hkeeps

/-- `parse` inverts `serialize` exactly on `Expressible` elements, and `serialize` is injective on
them. -/
theorem parse_serialize_iff_expressible :
    (∀ es, parse (serialize es) = .ok es ↔ Expressible es) ∧
      ∀ es es', Expressible es → Expressible es' → serialize es = serialize es' → es = es' := by
  refine ⟨fun es => ⟨expressible_of_parse_serialize, parse_serialize_of_expressible⟩, ?_⟩
  intro es es' h h' heq
  have hread := parse_serialize_of_expressible h
  rw [heq, parse_serialize_of_expressible h'] at hread
  exact (Except.ok.inj hread).symm

/-- Text that ends in the beginning of a tag stays text before every tag that is printed after it.
-/
theorem parse_serialize_half_tags :
    Expressible [.text ⟨"a[L".toList, .left, { bold := true, size := .tall }, false⟩,
        .text ⟨"]\r<".toList, .right, {}, true⟩, .feed 2,
        .barcode { symbology := .code128, content := "1</BARCODE".toList },
        .qrCode ⟨" <b>[C]\r".toList, 4, .center⟩] ∧
      parse (serialize [.text ⟨"a[L".toList, .left, { bold := true, size := .tall }, false⟩,
        .text ⟨"]\r<".toList, .right, {}, true⟩, .feed 2,
        .barcode { symbology := .code128, content := "1</BARCODE".toList },
        .qrCode ⟨" <b>[C]\r".toList, 4, .center⟩]) =
      .ok [.text ⟨"a[L".toList, .left, { bold := true, size := .tall }, false⟩,
        .text ⟨"]\r<".toList, .right, {}, true⟩, .feed 2,
        .barcode { symbology := .code128, content := "1</BARCODE".toList },
        .qrCode ⟨" <b>[C]\r".toList, 4, .center⟩] := by
  have h : Expressible [.text ⟨"a[L".toList, .left, { bold := true, size := .tall }, false⟩,
      .text ⟨"]\r<".toList, .right, {}, true⟩, .feed 2,
      .barcode { symbology := .code128, content := "1</BARCODE".toList },
      .qrCode ⟨" <b>[C]\r".toList, 4, .center⟩] := by
    constructor
    case nonempty => simp
    case text =>
      intro run hrun
      simp only [List.mem_cons, Element.text.injEq, reduceCtorEq, List.not_mem_nil, or_false]
        at hrun
      rcases hrun with rfl | rfl
      · exact ⟨by decide, by decide, isPlain_iff_tagFree.1 (by decide)⟩
      · exact ⟨by decide, by decide, isPlain_iff_tagFree.1 (by decide)⟩
    case barcode =>
      intro b hb
      simp only [List.mem_cons, Element.barcode.injEq, reduceCtorEq, List.not_mem_nil, or_false,
        false_or] at hb
      subst hb
      have hclosing : ¬HasClosing BlockKind.barcode.closing "1</BARCODE".toList :=
        (splitAtClosing?_eq_none_iff (closing_ne_nil _)).1 (by decide)
      exact ⟨by decide, by decide, hclosing, isFinitePositive_height, by simp⟩
    case qrCode =>
      intro q hq
      simp only [List.mem_cons, Element.qrCode.injEq, reduceCtorEq, List.not_mem_nil, or_false,
        false_or] at hq
      subst hq
      have hclosing : ¬HasClosing BlockKind.qrCode.closing " <b>[C]\r".toList :=
        (splitAtClosing?_eq_none_iff (closing_ne_nil _)).1 (by decide)
      exact ⟨by decide, by decide, hclosing⟩
    case feed => simp
    case lines_end => simp [LinesEnd]
    case feeds_apart => simp [FeedsApart]
    case keeps_return =>
      intro run hrun
      simp only [List.mem_cons, Element.text.injEq, reduceCtorEq, List.not_mem_nil, or_false]
        at hrun
      rcases hrun with rfl | rfl
      · simp
      · simp
  exact ⟨h, (parse_serialize_iff_expressible.1 _).2 h⟩

end Markup

end ReceiptPrinter

import ReceiptPrinter.Proofs.Markup.Expressible

/-!
# What reading markup gives

Reading markup gives some lists of elements and no others: a run is plain text on one line, every
line of text is complete, blank lines in a row are one feed, and every block is one that a printer
can be asked for. `Obtainable` states these conditions: they hold of the elements of any markup that
can be read, and every list of elements that meets them is what some markup reads as.
-/

namespace ReceiptPrinter

open Markup

namespace Element

variable {es : List Element}

/-- Elements that reading markup may give. -/
structure Obtainable (es : List Element) : Prop where
  nonempty : es ≠ []
  text : ∀ run, .text run ∈ es → run.content ≠ [] ∧ '\n' ∉ run.content ∧ TagFree run.content
  /-- A run that does not end its line stands right before another run. -/
  run_follows : ∀ before run after, es = before ++ .text run :: after → run.endsLine = false →
    ∃ next rest, after = .text next :: rest
  last_ends : ∀ run, es.getLast? = some (.text run) → run.endsLine = true
  feed : ∀ n, .feed n ∈ es → 1 ≤ n
  feeds_apart : ∀ m n, ¬[.feed m, .feed n] <:+: es
  barcode : ∀ b, .barcode b ∈ es → Text.trim b.content = b.content ∧ '\n' ∉ b.content ∧
    ¬HasClosing BlockKind.barcode.closing b.content ∧ b.height.isFinitePositive = true ∧
      ∀ w ∈ b.width, w.isFinitePositive = true
  qrCode : ∀ q, .qrCode q ∈ es → 1 ≤ q.moduleSize ∧ '\n' ∉ q.content ∧
    ¬HasClosing BlockKind.qrCode.closing q.content
  picture : ∀ p, .picture p ∈ es → (1 ≤ p.bitmap.width ∧ p.bitmap.width ≤ 65535) ∧
    (1 ≤ p.bitmap.height ∧ p.bitmap.height ≤ 65535) ∧
      p.bitmap.data.length = (p.bitmap.width + 7) / 8 * p.bitmap.height

/-! ### Places in a list -/

theorem linesEnd_iff : LinesEnd es ↔ ∀ before run after, es = before ++ .text run :: after →
    run.endsLine = false → ∃ next rest, after = .text next :: rest := by
  induction es with
  | nil => simp [LinesEnd]
  | cons e es ih =>
    have hcons : LinesEnd (e :: es) ↔ (∀ run, e = .text run → run.endsLine = false →
        ∃ next rest, es = .text next :: rest) ∧ LinesEnd es := by
      cases e <;> simp [LinesEnd]
    rw [hcons, ih]
    constructor
    · rintro ⟨hfirst, hrest⟩ before run after heq
      cases before with
      | nil =>
        cases heq
        exact hfirst run rfl
      | cons e' before =>
        cases heq
        exact hrest before run after rfl
    · intro h
      refine ⟨fun run he => ?_, fun before run after heq => ?_⟩
      · rw [he] at h
        exact h [] run es rfl
      · exact h (e :: before) run after (by rw [heq]; rfl)

theorem feedsApart_iff : FeedsApart es ↔ ∀ m n, ¬[.feed m, .feed n] <:+: es := by
  induction es with
  | nil => simp [FeedsApart]
  | cons e es ih =>
    have hcons : FeedsApart (e :: es) ↔
        (∀ m n, ¬[.feed m, .feed n] <+: e :: es) ∧ FeedsApart es := by
      cases e with
      | feed m =>
        refine and_congr_left fun _ => ⟨fun h k n hpre => ?_, fun h n rest heq => ?_⟩
        · obtain ⟨rest, hrest⟩ := hpre
          exact h n rest (List.cons.inj hrest).2.symm
        · exact h m n ⟨rest, by rw [heq]; rfl⟩
      | text run => simp [FeedsApart]
      | picture p => simp [FeedsApart]
      | barcode b => simp [FeedsApart]
      | qrCode q => simp [FeedsApart]
    rw [hcons, ih]
    simp only [List.infix_cons_iff, not_or, forall_and]

/-- `Obtainable` is `Canonical` for lists that are not empty. -/
theorem obtainable_iff : Obtainable es ↔ es ≠ [] ∧ Canonical es := by
  constructor
  · intro h
    refine ⟨h.nonempty, ?sound, ?one_line, linesEnd_iff.2 h.run_follows,
      feedsApart_iff.2 h.feeds_apart⟩
    case sound =>
      intro e he
      cases e with
      | text run => exact ⟨(h.text run he).1, isPlain_iff_tagFree.2 (h.text run he).2.2⟩
      | picture p => trivial
      | barcode b => exact ⟨(h.barcode b he).1, (h.barcode b he).2.2⟩
      | qrCode q => exact ⟨one_le_iff_pos.1 (h.qrCode q he).1, (h.qrCode q he).2.2⟩
      | feed n => exact h.feed n he
    case one_line =>
      intro e he
      cases e with
      | text run => exact (h.text run he).2.1
      | picture p => simp [content]
      | barcode b => exact (h.barcode b he).2.1
      | qrCode q => exact (h.qrCode q he).2.1
      | feed n => simp [content]
  · rintro ⟨hne, h⟩
    have hfollows := linesEnd_iff.1 h.lines_end
    constructor
    case nonempty => exact hne
    case text =>
      intro run hrun
      obtain ⟨hcontent, hplain⟩ := h.sound _ hrun
      exact ⟨hcontent, h.one_line _ hrun, isPlain_iff_tagFree.1 hplain⟩
    case run_follows => exact hfollows
    case last_ends =>
      intro run hlast
      obtain ⟨before, rfl⟩ := List.getLast?_eq_some_iff.1 hlast
      by_contra hopen
      obtain ⟨_, _, hnil⟩ := hfollows before run [] rfl (Bool.eq_false_iff.2 hopen)
      cases hnil
    case feed => exact fun n hn => h.sound _ hn
    case feeds_apart => exact feedsApart_iff.1 h.feeds_apart
    case barcode =>
      intro b hb
      obtain ⟨htrim, hrest⟩ := h.sound _ hb
      exact ⟨htrim, h.one_line _ hb, hrest⟩
    case qrCode =>
      intro q hq
      obtain ⟨hsize, hclosing⟩ := h.sound _ hq
      exact ⟨one_le_iff_pos.2 hsize, h.one_line _ hq, hclosing⟩
    case picture =>
      intro p _
      exact ⟨⟨p.bitmap.width_pos, p.bitmap.width_le⟩, ⟨p.bitmap.height_pos, p.bitmap.height_le⟩,
        p.bitmap.data_length⟩

end Element

namespace Markup

open Element

theorem splitLines_join_return {lines : List Text} (hne : lines ≠ []) (h : ∀ l ∈ lines, '\n' ∉ l) :
    splitLines (Text.join '\n' (lines.map (· ++ ['\r']))) = lines := by
  rw [splitLines_join (by simpa using hne), List.map_map]
  · refine (List.map_congr_left fun line _ => ?_).trans (List.map_id lines)
    rw [Function.comp_apply, Text.chomp, if_pos List.getLast?_concat, List.dropLast_concat, id]
  · refine List.forall_mem_map.2 fun line hline => ?_
    simpa using h line hline

/-- `Canonical` elements are what their printed lines read as if each line is ended by a carriage
return and a line feed: then it is not text that is lost. -/
theorem exists_parse_of_canonical {es : List Element} (hne : es ≠ []) (h : Canonical es) :
    ∃ x, parse x = .ok es := by
  obtain ⟨lines, hlines, -, helements, hsound, hfeed⟩ := exists_lines hne h
  refine ⟨Text.join '\n' ((lines.map PrintedLine.text).map (· ++ ['\r'])), ?_⟩
  rw [parse, splitLines_join_return (by simpa using hlines) (List.forall_mem_map.2 hfeed),
    PrintedLine.parseLines_text hsound, ← helements, Except.map,
    mergeFeeds_spread h.feeds_apart h.sound]

/-- Some markup parses as `es` exactly if `es` is `Obtainable`. -/
theorem exists_parse_eq_ok_iff_obtainable {es : List Element} :
    (∃ x, parse x = .ok es) ↔ Obtainable es := by
  rw [obtainable_iff]
  constructor
  · rintro ⟨x, h⟩
    obtain ⟨hne, hcanonical, -⟩ := parse_canonical h
    exact ⟨hne, hcanonical⟩
  · rintro ⟨hne, hcanonical⟩
    exact exists_parse_of_canonical hne hcanonical

end Markup

end ReceiptPrinter

import ReceiptPrinter.Proofs.Markup.Printed

/-!
# Reading printed markup

A line that ends with a carriage return loses it when it is read, so the text of an unstyled run
that ends its line and itself ends with one does not survive. `LosesReturn` says that there is such
a run. `parse` inverts `serialize` on `Canonical` elements without one, and markup is stable under
printing exactly if reading it gives none.
-/

namespace ReceiptPrinter

namespace Element

/-- Whether the text of an unstyled run that ends its line ends with a carriage return. -/
def LosesReturn (es : List Element) : Prop :=
  ∃ run, .text run ∈ es ∧ run.endsLine = true ∧ run.style = {} ∧ run.content.getLast? = some '\r'

end Element

namespace Markup

open Element

/-! ### Feeds -/

theorem mergeFeeds_replicate {es : List Element}
    (hes : ∀ n rest, mergeFeeds es ≠ .feed n :: rest) (n : Nat) :
    mergeFeeds (List.replicate (n + 1) (.feed 1) ++ es) = .feed (n + 1) :: mergeFeeds es := by
  induction n with
  | zero =>
    obtain ⟨k, rest, heq, -⟩ | ⟨-, heq⟩ := mergeFeeds_feed 1 es
    · exact absurd heq (hes k rest)
    · exact heq
  | succ n ih =>
    rw [List.replicate_succ, List.cons_append]
    obtain ⟨k, rest, heq, hmerge⟩ | ⟨hnot, -⟩ :=
      mergeFeeds_feed 1 (List.replicate (n + 1) (.feed 1) ++ es)
    · rw [ih] at heq
      cases heq
      rw [hmerge, Nat.add_comm]
    · exact absurd ih (hnot _ _)

/-- `mergeFeeds` undoes `spread` on feeds that are not neighbours. -/
theorem mergeFeeds_spread {es : List Element} (hfeeds : FeedsApart es)
    (hsound : ∀ e ∈ es, e.Sound) : mergeFeeds (spread es) = es := by
  induction es with
  | nil => rfl
  | cons e es ih =>
    obtain ⟨he, hes⟩ := List.forall_mem_cons.1 hsound
    cases e with
    | feed n =>
      obtain ⟨hnot, hrest⟩ := hfeeds
      have hmerge := ih hrest hes
      obtain ⟨m, rfl⟩ : ∃ m, n = m + 1 := Nat.exists_eq_succ_of_ne_zero (Nat.ne_of_gt he)
      have hstart : ∀ k rest, mergeFeeds (spread es) ≠ .feed k :: rest := by
        rw [hmerge]
        exact hnot
      show mergeFeeds (List.replicate (m + 1) (.feed 1) ++ spread es) = _
      rw [mergeFeeds_replicate hstart, hmerge]
    | text run => exact congrArg (.text run :: ·) (ih hfeeds hes)
    | picture p => exact congrArg (.picture p :: ·) (ih hfeeds hes)
    | barcode b => exact congrArg (.barcode b :: ·) (ih hfeeds hes)
    | qrCode q => exact congrArg (.qrCode q :: ·) (ih hfeeds hes)

theorem spread_ne_nil {es : List Element} (hne : es ≠ []) (hsound : ∀ e ∈ es, e.Sound) :
    spread es ≠ [] := by
  obtain ⟨e, es, rfl⟩ := List.exists_cons_of_ne_nil hne
  have he := hsound e (by simp)
  cases e with
  | feed n =>
    obtain ⟨m, rfl⟩ : ∃ m, n = m + 1 := Nat.exists_eq_succ_of_ne_zero (Nat.ne_of_gt he)
    exact List.cons_ne_nil _ _
  | text run => exact List.cons_ne_nil _ _
  | picture p => exact List.cons_ne_nil _ _
  | barcode b => exact List.cons_ne_nil _ _
  | qrCode q => exact List.cons_ne_nil _ _

/-! ### Lines -/

theorem count_lines {lines : List PrintedLine}
    (h : ∀ e ∈ lines.flatMap PrintedLine.elements, e.Sound) {c : Char} (hc : c.toNat < 32) :
    (lines.map PrintedLine.text).flatten.count c =
      ((lines.flatMap PrintedLine.elements).flatMap content).count c := by
  induction lines with
  | nil => rfl
  | cons line lines ih =>
    rw [List.flatMap_cons] at h ⊢
    obtain ⟨hline, hlines⟩ := List.forall_mem_append.1 h
    rw [List.map_cons, List.flatten_cons, List.count_append, line.count_text hline hc, ih hlines,
      List.flatMap_append, List.count_append]

theorem exists_lines {es : List Element} (hne : es ≠ []) (h : Canonical es) :
    ∃ lines : List PrintedLine, lines ≠ [] ∧
      serialize es = Text.join '\n' (lines.map PrintedLine.text) ∧
      spread es = lines.flatMap PrintedLine.elements ∧
      (∀ e ∈ lines.flatMap PrintedLine.elements, e.Sound) ∧
      ∀ line ∈ lines, '\n' ∉ line.text := by
  obtain ⟨lines, htext, helements⟩ := printLines_eq h.lines_end
  have hsound : ∀ e ∈ lines.flatMap PrintedLine.elements, e.Sound := by
    rw [← helements]
    exact sound_of_mem_spread h.sound
  have hfeed : '\n' ∉ (lines.map PrintedLine.text).flatten := by
    rw [← List.count_eq_zero, count_lines hsound (by decide), ← helements, content_spread,
      List.count_eq_zero]
    intro hmem
    obtain ⟨e, he, hc⟩ := List.mem_flatMap.1 hmem
    exact h.one_line e he hc
  refine ⟨lines, ?_, by rw [serialize, htext], helements, hsound, fun line hline hc => ?_⟩
  · rintro rfl
    exact spread_ne_nil hne h.sound helements
  · exact hfeed (List.mem_flatten.2 ⟨_, List.mem_map_of_mem hline, hc⟩)

/-- `splitLines` finds the printed lines of `Canonical` elements again. -/
theorem exists_printedLines {es : List Element} (hne : es ≠ []) (h : Canonical es) :
    ∃ lines : List PrintedLine, spread es = lines.flatMap PrintedLine.elements ∧
      (∀ e ∈ lines.flatMap PrintedLine.elements, e.Sound) ∧
      splitLines (serialize es) = (lines.map PrintedLine.text).map Text.chomp := by
  obtain ⟨lines, hlines, htext, helements, hsound, hfeed⟩ := exists_lines hne h
  refine ⟨lines, helements, hsound, ?_⟩
  rw [htext, splitLines_join (by simpa using hlines)]
  exact List.forall_mem_map.2 hfeed

/-- `parse` inverts `serialize` on `Canonical` elements of which no line loses a carriage return. -/
theorem parse_serialize_of_canonical {es : List Element} (hne : es ≠ []) (h : Canonical es)
    (hkeeps : ¬LosesReturn es) : parse (serialize es) = .ok es := by
  obtain ⟨lines, helements, hsound, hsplit⟩ := exists_printedLines hne h
  have hchomp : (lines.map PrintedLine.text).map Text.chomp = lines.map PrintedLine.text := by
    rw [List.map_map]
    refine List.map_congr_left fun line hline => Text.chomp_of_getLast? fun hlast => hkeeps ?_
    have hline' : ∀ e ∈ line.elements, e ∈ lines.flatMap PrintedLine.elements :=
      fun e he => List.mem_flatMap.2 ⟨line, hline, he⟩
    obtain ⟨run, hrun, hloses⟩ :=
      (line.getLast?_text fun e he => hsound e (hline' e he)).1 hlast
    have hmem := hline' _ hrun
    rw [← helements] at hmem
    exact ⟨run, text_mem_spread.1 hmem, hloses⟩
  rw [parse, hsplit, hchomp, PrintedLine.parseLines_text hsound, ← helements, Except.map,
    mergeFeeds_spread h.feeds_apart h.sound]

/-- A line that loses a carriage return does not read back. -/
theorem parse_serialize_ne {es : List Element} (hne : es ≠ []) (h : Canonical es)
    (hloses : LosesReturn es) : parse (serialize es) ≠ .ok es := by
  intro hparse
  obtain ⟨lines, helements, hsound, hsplit⟩ := exists_printedLines hne h
  obtain ⟨run, hrun, hends⟩ := hloses
  have hmem : .text run ∈ lines.flatMap PrintedLine.elements := by
    rw [← helements]
    exact text_mem_spread.2 hrun
  obtain ⟨line, hline, hrun'⟩ := List.mem_flatMap.1 hmem
  have hlast : line.text.getLast? = some '\r' :=
    (line.getLast?_text fun e he => hsound e (List.mem_flatMap.2 ⟨line, hline, he⟩)).2
      ⟨run, hrun', hends⟩
  -- what is read back has at most the carriage returns that are left in the lines
  obtain ⟨-, -, hsub⟩ := parse_canonical hparse
  rw [hsplit] at hsub
  have hle := hsub.count_le '\r'
  have hlt := Text.count_flatten_chomp_lt (List.mem_map_of_mem hline) hlast
  have hcount := count_lines hsound (c := '\r') (by decide)
  rw [← helements, content_spread] at hcount
  omega

/-- Elements that `parse` gave are parsed again from `serialize es` exactly if no unstyled run that
ends its line ends with a carriage return. -/
theorem parse_serialize_iff {markup : Text} {es : List Element} (h : parse markup = .ok es) :
    parse (serialize es) = .ok es ↔
      ∀ run, .text run ∈ es → run.endsLine = true → run.style = {} →
        run.content.getLast? ≠ some '\r' := by
  obtain ⟨hne, hcanonical, -⟩ := parse_canonical h
  constructor
  · intro hparse run hrun hends hstyle hlast
    exact parse_serialize_ne hne hcanonical ⟨run, hrun, hends, hstyle, hlast⟩ hparse
  · intro hkeeps
    refine parse_serialize_of_canonical hne hcanonical ?_
    rintro ⟨run, hrun, hends, hstyle, hlast⟩
    exact hkeeps run hrun hends hstyle hlast

theorem parse_serialize_receipt :
    parse "[C]<b>Sum</b> 1\r2\n\n\n<qrcode size='4'> a</qrcode>".toList =
        .ok [.text ⟨"Sum".toList, .center, { bold := true }, false⟩,
          .text ⟨" 1\r2".toList, .center, {}, true⟩, .feed 2, .qrCode ⟨" a".toList, 4, .center⟩] ∧
      parse (serialize [.text ⟨"Sum".toList, .center, { bold := true }, false⟩,
          .text ⟨" 1\r2".toList, .center, {}, true⟩, .feed 2, .qrCode ⟨" a".toList, 4, .center⟩]) =
        .ok [.text ⟨"Sum".toList, .center, { bold := true }, false⟩,
          .text ⟨" 1\r2".toList, .center, {}, true⟩, .feed 2, .qrCode ⟨" a".toList, 4, .center⟩] := by
  have hread : parse "[C]<b>Sum</b> 1\r2\n\n\n<qrcode size='4'> a</qrcode>".toList =
      .ok [.text ⟨"Sum".toList, .center, { bold := true }, false⟩,
        .text ⟨" 1\r2".toList, .center, {}, true⟩, .feed 2, .qrCode ⟨" a".toList, 4, .center⟩] := by
    decide +kernel
  refine ⟨hread, (parse_serialize_iff hread).2 ?_⟩
  intro run hrun _ _
  simp only [List.mem_cons, Element.text.injEq, reduceCtorEq, List.not_mem_nil, or_false] at hrun
  rcases hrun with rfl | rfl <;> decide

/-- A carriage return before the one that belongs to the line ending is text, and is lost. -/
theorem parse_serialize_loses_return :
    parse "a\r\r".toList = .ok [.text (.line "a\r".toList .left)] ∧
      parse (serialize [.text (.line "a\r".toList .left)]) = .ok [.text (.line "a".toList .left)] :=
  ⟨by decide +kernel, by decide +kernel⟩

end Markup

end ReceiptPrinter

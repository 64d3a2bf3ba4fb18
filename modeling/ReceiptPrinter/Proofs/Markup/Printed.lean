import ReceiptPrinter.Proofs.Markup.Written

/-!
# Lines of printed markup

Elements are printed line by line: a line is blank, holds a block, or holds runs of text of which
only the last one ends its line. `PrintedLine` has a case for each. The printed lines of canonical
elements read back as these elements with one feed for each blank line (`Element.spread`); and a
line ends with a carriage return exactly if the text of an unstyled run does that ends it.
-/

namespace ReceiptPrinter

namespace Element

/-- One feed for every blank line. -/
def spread (es : List Element) : List Element :=
  es.flatMap fun e =>
    match e with
    | .feed n => List.replicate n (.feed 1)
    | e => [e]

theorem mem_spread {es : List Element} {e : Element} (h : e ∈ spread es) :
    e = .feed 1 ∨ (e ∈ es ∧ ∀ n, e ≠ .feed n) := by
  obtain ⟨e', he', h⟩ := List.mem_flatMap.1 h
  cases e' with
  | feed n => exact .inl (List.eq_of_mem_replicate h)
  | text run => rw [List.mem_singleton.1 h]; exact .inr ⟨he', by simp⟩
  | picture p => rw [List.mem_singleton.1 h]; exact .inr ⟨he', by simp⟩
  | barcode b => rw [List.mem_singleton.1 h]; exact .inr ⟨he', by simp⟩
  | qrCode q => rw [List.mem_singleton.1 h]; exact .inr ⟨he', by simp⟩

theorem text_mem_spread {es : List Element} {run : TextRun} :
    .text run ∈ spread es ↔ .text run ∈ es := by
  constructor
  · intro h
    obtain heq | ⟨hmem, -⟩ := mem_spread h
    · cases heq
    · exact hmem
  · exact fun h => List.mem_flatMap.2 ⟨_, h, List.mem_singleton_self _⟩

theorem sound_of_mem_spread {es : List Element} (h : ∀ e ∈ es, e.Sound) :
    ∀ e ∈ spread es, e.Sound := by
  intro e he
  obtain rfl | ⟨hmem, -⟩ := mem_spread he
  · exact Nat.one_pos
  · exact h e hmem

theorem content_spread (es : List Element) :
    (spread es).flatMap content = es.flatMap content := by
  induction es with
  | nil => rfl
  | cons e es ih =>
    rw [spread, List.flatMap_cons, List.flatMap_append, ← spread, ih, List.flatMap_cons]
    cases e with
    | feed n => simp [content]
    | text run => rw [List.flatMap_singleton]
    | picture p => rw [List.flatMap_singleton]
    | barcode b => rw [List.flatMap_singleton]
    | qrCode q => rw [List.flatMap_singleton]

end Element

namespace Markup

/-- A line of printed markup. -/
inductive PrintedLine where
  | runs (first : List TextRun) (last : TextRun) (hfirst : ∀ run ∈ first, run.endsLine = false)
    (hlast : last.endsLine = true)
  | picture (p : Picture)
  | barcode (b : Barcode)
  | qrCode (q : QrCode)
  | blank

namespace PrintedLine

def text : PrintedLine → Text
  | runs first last _ _ => (first ++ [last]).flatMap printRun
  | picture p => printPicture p
  | barcode b => printBarcode b
  | qrCode q => printQrCode q
  | blank => []

def elements : PrintedLine → List Element
  | runs first last _ _ => (first ++ [last]).map .text
  | picture p => [.picture p]
  | barcode b => [.barcode b]
  | qrCode q => [.qrCode q]
  | blank => [.feed 1]

/-- `parseLine` reads a printed line back as its elements. -/
theorem parseLine_text {line : PrintedLine} (h : ∀ e ∈ line.elements, e.Sound) (align : Align) :
    ∃ next, parseLine align line.text = .ok (next, line.elements) := by
  cases line with
  | runs first last hfirst hlast =>
    exact parseLine_runs (fun run hrun => h _ (List.mem_map_of_mem hrun)) hfirst hlast align
  | picture p => exact ⟨_, parseLine_printPicture p align⟩
  | barcode b => exact ⟨_, parseLine_printBarcode (h _ (List.mem_singleton_self _)) align⟩
  | qrCode q => exact ⟨_, parseLine_printQrCode (h _ (List.mem_singleton_self _)) align⟩
  | blank =>
    refine ⟨align, ?_⟩
    rw [text, parseLine, tokens]
    rfl

theorem parseLines_text {lines : List PrintedLine}
    (h : ∀ e ∈ lines.flatMap elements, e.Sound) (align : Align) :
    parseLines align (lines.map text) = .ok (lines.flatMap elements) := by
  induction lines generalizing align with
  | nil => rfl
  | cons line lines ih =>
    rw [List.flatMap_cons] at h
    obtain ⟨hline, hlines⟩ := List.forall_mem_append.1 h
    obtain ⟨next, hnext⟩ := parseLine_text hline align
    rw [List.map_cons, parseLines, hnext, ok_bind]
    simp only [ih hlines, ok_bind]
    rfl

theorem count_text {line : PrintedLine} (h : ∀ e ∈ line.elements, e.Sound) {c : Char}
    (hc : c.toNat < 32) : line.text.count c = (line.elements.flatMap Element.content).count c := by
  cases line with
  | runs first last hfirst hlast =>
    show ((first ++ [last]).flatMap printRun).count c =
      (((first ++ [last]).map .text).flatMap Element.content).count c
    rw [List.flatMap_map]
    induction first ++ [last] with
    | nil => rfl
    | cons run runs ih =>
      rw [List.flatMap_cons, List.flatMap_cons, List.count_append, List.count_append, ih,
        count_printRun hc]
      rfl
  | picture p =>
    rw [text, printPicture_eq, count_block (by simp) hc]
    refine List.count_eq_zero.2 fun hmem => ?_
    have hbounds := Text.bounds_of_isHexDigit (Hex.isHexDigit_of_mem_encode hmem)
    omega
  | barcode b =>
    rw [text, printBarcode_eq, count_block (writable_barcodeAttributes b) hc, elements,
      List.flatMap_singleton]
    rfl
  | qrCode q =>
    rw [text, printQrCode_eq, count_block (writable_qrCodeAttributes q) hc, elements,
      List.flatMap_singleton]
    rfl
  | blank => rfl

theorem getLast?_text {line : PrintedLine} (h : ∀ e ∈ line.elements, e.Sound) :
    line.text.getLast? = some '\r' ↔ ∃ run, .text run ∈ line.elements ∧ run.endsLine = true ∧
      run.style = {} ∧ run.content.getLast? = some '\r' := by
  cases line with
  | runs first last hfirst hlast =>
    have hcontent : last.content ≠ [] := (h (.text last) (by simp [elements])).1
    have hmem : ∀ run, .text run ∈ (runs first last hfirst hlast).elements →
        run.endsLine = true → run = last := by
      intro run hrun hends
      obtain ⟨run', hrun', heq⟩ := List.mem_map.1 hrun
      cases heq
      rcases List.mem_append.1 hrun' with hrun' | hrun'
      · rw [hfirst run hrun'] at hends
        cases hends
      · exact List.mem_singleton.1 hrun'
    have htext : (runs first last hfirst hlast).text.getLast? =
        if last.style = {} then last.content.getLast? else some '>' := by
      rw [text, List.flatMap_append, List.flatMap_singleton, List.getLast?_append,
        getLast?_printRun hcontent, Option.or_of_isSome]
      split
      · rw [List.getLast?_isSome]
        exact hcontent
      · rfl
    rw [htext]
    constructor
    · intro hlast'
      by_cases hstyle : last.style = {}
      · rw [if_pos hstyle] at hlast'
        exact ⟨last, by simp [elements], hlast, hstyle, hlast'⟩
      · rw [if_neg hstyle] at hlast'
        cases hlast'
    · rintro ⟨run, hrun, hends, hstyle, hrun'⟩
      obtain rfl := hmem run hrun hends
      rw [if_pos hstyle]
      exact hrun'
  | picture p =>
    rw [text, printPicture_eq, getLast?_block]
    simp [elements]
  | barcode b =>
    rw [text, printBarcode_eq, getLast?_block]
    simp [elements]
  | qrCode q =>
    rw [text, printQrCode_eq, getLast?_block]
    simp [elements]
  | blank => simp [text, elements]

end PrintedLine

/-! ### Laying out elements in lines -/

/-- The line of runs that has not ended, if there are any. -/
def openLine (pending : List TextRun) : Option Text :=
  if pending = [] then none else some (pending.flatMap printRun)

theorem getD_openLine (pending : List TextRun) :
    (openLine pending).getD [] = pending.flatMap printRun := by
  unfold openLine
  split
  · next h => rw [h]; rfl
  · rfl

theorem openLine_concat (pending : List TextRun) (run : TextRun) :
    openLine (pending ++ [run]) = some (pending.flatMap printRun ++ printRun run) := by
  rw [openLine, if_neg (by simp), List.flatMap_append, List.flatMap_singleton]

/-- Whether `printLines` lays `es` out in printed lines after the open line of `pending`. -/
def LaidOut (pending : List TextRun) (es : List Element) : Prop :=
  ∃ lines : List PrintedLine, printLines (openLine pending) es = lines.map PrintedLine.text ∧
    pending.map .text ++ Element.spread es = lines.flatMap PrintedLine.elements

theorem LaidOut.cons {e : Element} {es : List Element} (h : LaidOut [] es)
    (lines : List PrintedLine)
    (htext : printLines none (e :: es) = lines.map PrintedLine.text ++ printLines none es)
    (helements : Element.spread (e :: es) =
      lines.flatMap PrintedLine.elements ++ Element.spread es) : LaidOut [] (e :: es) := by
  obtain ⟨rest, htext', helements'⟩ := h
  refine ⟨lines ++ rest, ?_, ?_⟩
  · rw [List.map_append, ← htext']
    exact htext
  · rw [List.flatMap_append, ← helements']
    exact helements

theorem LaidOut.cons_run {pending : List TextRun} {run : TextRun} {es : List Element}
    (hpending : ∀ r ∈ pending, r.endsLine = false) (hrun : run.endsLine = true)
    (h : LaidOut [] es) : LaidOut pending (.text run :: es) := by
  obtain ⟨rest, htext, helements⟩ := h
  refine ⟨.runs pending run hpending hrun :: rest, ?_, ?_⟩
  · rw [printLines, getD_openLine, if_pos hrun, List.map_cons, ← htext, PrintedLine.text,
      List.flatMap_append, List.flatMap_singleton]
    rfl
  · rw [List.flatMap_cons, ← helements, PrintedLine.elements, List.map_append, List.append_assoc]
    rfl

/-- Elements whose lines of text end are `LaidOut`; the induction keeps an open line. -/
theorem laidOut {pending : List TextRun} {es : List Element}
    (hpending : ∀ run ∈ pending, run.endsLine = false) (hends : Element.LinesEnd es)
    (hnext : pending ≠ [] → ∃ run rest, es = .text run :: rest) : LaidOut pending es := by
  induction es generalizing pending with
  | nil =>
    have hnil : pending = [] := by
      by_contra hne
      obtain ⟨_, _, heq⟩ := hnext hne
      cases heq
    rw [hnil]
    exact ⟨[], rfl, rfl⟩
  | cons e es ih =>
    -- a line of text is open only before a run
    have hclosed : (∀ run, e ≠ .text run) → pending = [] := by
      intro htext
      by_contra hne
      obtain ⟨run, rest, heq⟩ := hnext hne
      exact htext run (List.cons.inj heq).1
    have hrest : Element.LinesEnd es → LaidOut [] es := fun hends =>
      ih (by simp) hends fun h => absurd rfl h
    cases e with
    | text run =>
      by_cases hrun : run.endsLine = true
      · exact .cons_run hpending hrun (hrest hends.2)
      · have hrun : run.endsLine = false := Bool.eq_false_iff.2 hrun
        have hpending' : ∀ r ∈ pending ++ [run], r.endsLine = false := by
          intro r hr
          rcases List.mem_append.1 hr with hr | hr
          · exact hpending r hr
          · rw [List.mem_singleton.1 hr]
            exact hrun
        obtain ⟨lines, htext, helements⟩ := ih hpending' hends.2 fun _ => hends.1 hrun
        refine ⟨lines, ?_, ?_⟩
        · rw [printLines, getD_openLine, if_neg (by simp [hrun]), ← htext, openLine_concat]
        · rw [← helements, List.map_append, List.append_assoc]
          rfl
    | feed n =>
      have hlines : (List.replicate n PrintedLine.blank).flatMap PrintedLine.elements =
          List.replicate n (.feed 1) := by
        rw [List.flatMap_replicate]
        exact List.flatten_replicate_singleton
      rw [hclosed (by simp)]
      refine (hrest hends).cons (List.replicate n .blank) ?_ ?_
      · rw [List.map_replicate]
        rfl
      · rw [hlines]
        rfl
    | picture p =>
      rw [hclosed (by simp)]
      exact (hrest hends).cons [.picture p] rfl rfl
    | barcode b =>
      rw [hclosed (by simp)]
      exact (hrest hends).cons [.barcode b] rfl rfl
    | qrCode q =>
      rw [hclosed (by simp)]
      exact (hrest hends).cons [.qrCode q] rfl rfl

/-- `printLines` writes the lines of some `PrintedLine`s, which hold the elements in order. -/
theorem printLines_eq {es : List Element} (hends : Element.LinesEnd es) :
    ∃ lines : List PrintedLine, printLines none es = lines.map PrintedLine.text ∧
      Element.spread es = lines.flatMap PrintedLine.elements := by
  have hpending : ∀ run ∈ ([] : List TextRun), run.endsLine = false := by simp
  exact laidOut hpending hends fun h => absurd rfl h

end Markup

end ReceiptPrinter

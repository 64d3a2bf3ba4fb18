import Mathlib.Data.List.Chain
import ReceiptPrinter.Proofs.Receipt.Layout

/-!
# Wrapped lines

A wrapped line takes characters as long as they fit. The lines of `wrap` are the only ones with
`Wraps`: they hold the characters of the runs in order, fit on the paper, break only before a
character that did not fit any more (`Forced`), and keep neighbours of one style in one piece
(`Grouped`). No line is empty, except the one that runs without characters leave.
-/

namespace ReceiptPrinter.Layout

/-! ### Lines of characters -/

/-- Whether a line breaks only before a character that did not fit on it. -/
def Forced (charset : Charset) (columns : Nat) (line next : List Glyph) : Prop :=
  ∃ g rest, next = g :: rest ∧ columns < width charset line + g.width charset

theorem exists_breakLines_eq (charset : Charset) (columns column : Nat) (line gs : List Glyph) :
    ∃ more lines, breakLines charset columns column line gs = (line ++ more) :: lines := by
  fun_induction breakLines charset columns column line gs with
  | case1 column line => exact ⟨[], [], by rw [List.append_nil]⟩
  | case2 column line g gs w hbreak ih =>
    exact ⟨[], breakLines charset columns w [g] gs, by rw [List.append_nil]⟩
  | case3 column line g gs w hbreak ih =>
    obtain ⟨more, lines, h⟩ := ih
    exact ⟨g :: more, lines, by rw [h, List.append_assoc]; rfl⟩

/-- The column counter is the width of the line, so a line is left only when it is full. -/
theorem isChain_forced_breakLines {charset : Charset} {columns column : Nat} {line gs : List Glyph}
    (hcolumn : width charset line = column) :
    (breakLines charset columns column line gs).IsChain (Forced charset columns) := by
  fun_induction breakLines charset columns column line gs with
  | case1 column line => exact .singleton line
  | case2 column line g gs w hbreak ih =>
    have hrest := ih (by simp [width, w])
    obtain ⟨more, lines, hnext⟩ := exists_breakLines_eq charset columns w [g] gs
    rw [hnext] at hrest ⊢
    refine .cons_cons ⟨g, more, rfl, ?_⟩ hrest
    rw [hcolumn]
    exact hbreak.1
  | case3 column line g gs w hbreak ih =>
    refine ih ?_
    rw [width_append, hcolumn]
    simp [width, w]

/-- A line is left only after a character has been put on it. -/
theorem nil_notMem_breakLines {charset : Charset} {columns column : Nat} {line gs : List Glyph}
    (h : line ≠ [] ∨ (column = 0 ∧ gs ≠ [])) :
    [] ∉ breakLines charset columns column line gs := by
  fun_induction breakLines charset columns column line gs with
  | case1 column line =>
    obtain hline | ⟨-, hgs⟩ := h
    · simpa using hline.symm
    · exact absurd rfl hgs
  | case2 column line g gs w hbreak ih =>
    obtain hline | ⟨hcolumn, -⟩ := h
    · rw [List.mem_cons, not_or]
      exact ⟨hline.symm, ih (.inl (List.cons_ne_nil g []))⟩
    · omega
  | case3 column line g gs w hbreak ih =>
    apply ih
    exact .inl (by simp)

/-- A full line cannot be longer: what follows it did not fit. -/
theorem not_fits_of_forced {charset : Charset} {columns : Nat} {line more : List Glyph} {g : Glyph}
    {lines : List (List Glyph)} {rest : List Glyph}
    (hforced : (line :: lines).IsChain (Forced charset columns)) (hne : [] ∉ lines)
    (hflat : lines.flatten = g :: rest) : ¬width charset (line ++ g :: more) ≤ columns := by
  cases lines with
  | nil => cases hflat
  | cons next lines =>
    obtain ⟨g', rest', rfl, hwidth⟩ := (List.isChain_cons_cons.1 hforced).1
    obtain ⟨rfl, -⟩ := List.cons.inj hflat
    rw [width_append]
    simp only [width, List.map_cons, List.sum_cons] at hwidth ⊢
    omega

/-- Characters break in one way only into lines that are full before a character follows. -/
theorem eq_of_forced {charset : Charset} {columns : Nat} {lines lines' : List (List Glyph)}
    (hflat : lines.flatten = lines'.flatten) (hne : [] ∉ lines) (hne' : [] ∉ lines')
    (hfits : ∀ line ∈ lines, width charset line ≤ columns)
    (hfits' : ∀ line ∈ lines', width charset line ≤ columns)
    (hforced : lines.IsChain (Forced charset columns))
    (hforced' : lines'.IsChain (Forced charset columns)) : lines = lines' := by
  induction lines generalizing lines' with
  | nil =>
    cases lines' with
    | nil => rfl
    | cons line' lines' =>
      obtain ⟨rfl, -⟩ := List.append_eq_nil_iff.1 hflat.symm
      exact absurd List.mem_cons_self hne'
  | cons line lines ih =>
    cases lines' with
    | nil =>
      obtain ⟨rfl, -⟩ := List.append_eq_nil_iff.1 hflat
      exact absurd List.mem_cons_self hne
    | cons line' lines' =>
      rw [List.mem_cons, not_or] at hne hne'
      rw [List.forall_mem_cons] at hfits hfits'
      obtain ⟨more, rfl, hrest⟩ | ⟨more, rfl, hrest⟩ := List.append_eq_append_iff.1 hflat
      · cases more with
        | cons g more => exact absurd hfits'.1 (not_fits_of_forced hforced hne.2 hrest)
        | nil =>
          rw [List.append_nil, ih hrest hne.2 hne'.2 hfits.2 hfits'.2 hforced.tail hforced'.tail]
      · cases more with
        | cons g more => exact absurd hfits.1 (not_fits_of_forced hforced' hne'.2 hrest)
        | nil =>
          rw [List.append_nil,
            ih hrest.symm hne.2 hne'.2 hfits.2 hfits'.2 hforced.tail hforced'.tail]

/-! ### Lines of pieces -/

/-- Whether pieces are as long as they can be. -/
structure Grouped (line : List Piece) : Prop where
  text_ne_nil : ∀ piece ∈ line, piece.text ≠ []
  style_ne : line.IsChain fun piece next => piece.style ≠ next.style

theorem Grouped.tail {piece : Piece} {line : List Piece} (h : Grouped (piece :: line)) :
    Grouped line :=
  ⟨fun p hp => h.text_ne_nil p (List.mem_cons_of_mem _ hp), h.style_ne.tail⟩

theorem isChain_style_congr {piece piece' : Piece} {line : List Piece}
    (h : (piece :: line).IsChain fun piece next => piece.style ≠ next.style)
    (hstyle : piece.style = piece'.style) :
    (piece' :: line).IsChain fun piece next => piece.style ≠ next.style := by
  cases line with
  | nil => exact .singleton _
  | cons next line =>
    obtain ⟨hfirst, hrest⟩ := List.isChain_cons_cons.1 h
    exact .cons_cons (hstyle ▸ hfirst) hrest

theorem grouped_consGlyph {line : List Piece} (h : Grouped line) (g : Glyph) :
    Grouped (consGlyph g line) := by
  cases line with
  | nil => exact ⟨by simp [consGlyph], .singleton _⟩
  | cons piece line =>
    rw [consGlyph]
    split
    · exact ⟨List.forall_mem_cons.2 ⟨List.cons_ne_nil _ _, h.tail.text_ne_nil⟩,
        isChain_style_congr h.style_ne rfl⟩
    · next hstyle =>
      exact ⟨List.forall_mem_cons.2 ⟨List.cons_ne_nil _ _, h.text_ne_nil⟩,
        .cons_cons (Ne.symm hstyle) h.style_ne⟩

theorem grouped_pieces (gs : List Glyph) : Grouped (pieces gs) := by
  induction gs with
  | nil => exact ⟨by simp [pieces], .nil⟩
  | cons g gs ih => exact grouped_consGlyph ih g

theorem pieces_glyphs_append {piece : Piece} {gs : List Glyph} (hne : piece.text ≠ [])
    (hstyle : (piece :: pieces gs).IsChain fun piece next => piece.style ≠ next.style) :
    pieces (piece.glyphs ++ gs) = piece :: pieces gs := by
  obtain ⟨text, style⟩ := piece
  simp only [Piece.glyphs] at hne hstyle ⊢
  induction text with
  | nil => exact absurd rfl hne
  | cons c text ih =>
    rw [List.map_cons, List.cons_append, pieces]
    cases text with
    | nil =>
      rw [List.map_nil, List.nil_append]
      cases hpieces : pieces gs with
      | nil => rfl
      | cons next rest =>
        rw [hpieces] at hstyle
        rw [consGlyph, if_neg (Ne.symm (List.isChain_cons_cons.1 hstyle).1)]
    | cons d text =>
      rw [ih (List.cons_ne_nil d text) (isChain_style_congr hstyle rfl), consGlyph, if_pos rfl]

/-- `pieces` finds a `Grouped` line again. -/
theorem pieces_flatMap_glyphs {line : List Piece} (h : Grouped line) :
    pieces (line.flatMap Piece.glyphs) = line := by
  induction line with
  | nil => rfl
  | cons piece line ih =>
    have hrest := ih h.tail
    have hstyle := h.style_ne
    rw [List.flatMap_cons, pieces_glyphs_append (h.text_ne_nil piece List.mem_cons_self), hrest]
    rw [hrest]
    exact hstyle

/-! ### Wrapped runs -/

/-- Whether `lines` are how `runs` wrap on paper of so many columns. -/
structure Wraps (charset : Charset) (columns : Nat) (runs : List TextRun)
    (lines : List (List Piece)) : Prop where
  /-- Every character of the runs stands in its place, in the style of its run. -/
  glyphs_eq : (lines.flatMap fun line => line.flatMap Piece.glyphs) = glyphs runs
  grouped : ∀ line ∈ lines, Grouped line
  fits : ∀ line ∈ lines, width charset (line.flatMap Piece.glyphs) ≤ columns
  forced : (lines.map fun line => line.flatMap Piece.glyphs).IsChain (Forced charset columns)
  empty : if ∀ run ∈ runs, run.content = [] then lines = [[]] else [] ∉ lines

theorem glyphs_eq_nil_iff {runs : List TextRun} :
    glyphs runs = [] ↔ ∀ run ∈ runs, run.content = [] := by
  simp [glyphs]

theorem glyphs_wrap (charset : Charset) (columns : Nat) (runs : List TextRun) :
    ((wrap charset columns runs).map fun line => line.flatMap Piece.glyphs) =
      breakLines charset columns 0 [] (glyphs runs) := by
  rw [wrap, List.map_map]
  exact (List.map_congr_left fun gs _ => flatMap_pieces gs).trans (List.map_id _)

theorem wraps_wrap (charset : Charset) (config : Config) (runs : List TextRun) :
    Wraps charset config.columns runs (wrap charset config.columns runs) := by
  have hchar : ∀ g : Glyph, g.width charset ≤ config.columns := fun g =>
    Nat.le_trans (glyph_width_le charset g) (Nat.le_trans (by decide) (columns_ge config))
  have hlines := glyphs_wrap charset config.columns runs
  refine ⟨?_, ?_, ?_, ?_, ?_⟩
  · rw [List.flatMap_def, hlines, flatten_breakLines, List.nil_append]
  · intro line hline
    obtain ⟨gs, -, rfl⟩ := List.mem_map.1 hline
    exact grouped_pieces gs
  · intro line hline
    have hmem := List.mem_map_of_mem (f := fun line => line.flatMap Piece.glyphs) hline
    rw [hlines] at hmem
    have hnone : width charset [] = 0 := rfl
    exact width_breakLines_le (fun g _ => hchar g) hnone (Nat.zero_le _) _ hmem
  · rw [hlines]
    exact isChain_forced_breakLines rfl
  · split
    · next hnone =>
      rw [wrap, glyphs_eq_nil_iff.2 hnone]
      rfl
    · next hsome =>
      intro hmem
      have hglyphs := List.mem_map_of_mem (f := fun line => line.flatMap Piece.glyphs) hmem
      rw [hlines] at hglyphs
      exact nil_notMem_breakLines (.inr ⟨rfl, mt glyphs_eq_nil_iff.1 hsome⟩) hglyphs

theorem Grouped.eq_nil {line : List Piece} (h : Grouped line)
    (hglyphs : line.flatMap Piece.glyphs = []) : line = [] := by
  rw [← pieces_flatMap_glyphs h, hglyphs]
  rfl

theorem Wraps.nil_notMem_glyphs {charset : Charset} {columns : Nat} {runs : List TextRun}
    {lines : List (List Piece)} (h : Wraps charset columns runs lines) (hne : [] ∉ lines) :
    [] ∉ lines.map fun line => line.flatMap Piece.glyphs := by
  rintro hmem
  obtain ⟨line, hline, hglyphs⟩ := List.mem_map.1 hmem
  rw [(h.grouped line hline).eq_nil hglyphs] at hline
  exact hne hline

theorem map_pieces_map_glyphs {lines : List (List Piece)} (h : ∀ line ∈ lines, Grouped line) :
    (lines.map fun line => line.flatMap Piece.glyphs).map pieces = lines := by
  rw [List.map_map]
  exact (List.map_congr_left fun line hline => pieces_flatMap_glyphs (h line hline)).trans
    (List.map_id _)

/-- Runs wrap in one way only. -/
theorem Wraps.eq {charset : Charset} {columns : Nat} {runs : List TextRun}
    {lines lines' : List (List Piece)} (h : Wraps charset columns runs lines)
    (h' : Wraps charset columns runs lines') : lines = lines' := by
  have hempty := h.empty
  have hempty' := h'.empty
  split at hempty
  · next hnone =>
    rw [if_pos hnone] at hempty'
    rw [hempty, hempty']
  · next hsome =>
    rw [if_neg hsome] at hempty'
    have hglyphs : (lines.map fun line => line.flatMap Piece.glyphs) =
        lines'.map fun line => line.flatMap Piece.glyphs := by
      refine eq_of_forced ?_ (h.nil_notMem_glyphs hempty) (h'.nil_notMem_glyphs hempty')
        (List.forall_mem_map.2 h.fits) (List.forall_mem_map.2 h'.fits) h.forced h'.forced
      rw [← List.flatMap_def, ← List.flatMap_def, h.glyphs_eq, h'.glyphs_eq]
    rw [← map_pieces_map_glyphs h.grouped, hglyphs, map_pieces_map_glyphs h'.grouped]

/-- `wrap` is the only solution of `Wraps`. -/
theorem wraps_iff_eq_wrap (charset : Charset) (config : Config) (runs : List TextRun)
    (lines : List (List Piece)) :
    Wraps charset config.columns runs lines ↔ lines = wrap charset config.columns runs := by
  constructor
  · intro h
    exact h.eq (wraps_wrap charset config runs)
  · rintro rfl
    exact wraps_wrap charset config runs

end ReceiptPrinter.Layout

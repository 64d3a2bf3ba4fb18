import ReceiptPrinter.Proofs.Receipt.Wrapping

/-!
# Cut text

Text is cut in two places: at a width, which leaves the start of it that fits, and at the ends of
lines, while characters are put on paper. `Charset.truncate` leaves the `LongestFit`; and a run
whose characters are not widened wraps into the lines of `cuts`, which come of cutting off what fits
again and again, on paper where every character fits.
-/

namespace ReceiptPrinter

namespace Charset

/-! ### Cutting at a width -/

/-- Whether `t` is the longest start of `s` that fits: every start that fits is a start of it. -/
structure LongestFit (charset : Charset) (columns : Nat) (s t : Text) : Prop where
  starts : t <+: s
  fits : charset.textWidth t ≤ columns
  longest : ∀ u, u <+: s → charset.textWidth u ≤ columns → u <+: t

theorem truncate_starts (charset : Charset) (columns : Nat) (s : Text) :
    charset.truncate columns s <+: s := by
  induction s generalizing columns with
  | nil => exact List.prefix_rfl
  | cons c s ih =>
    unfold truncate
    split
    · exact List.cons_prefix_cons.2 ⟨rfl, ih _⟩
    · exact List.nil_prefix

theorem textWidth_truncate_le (charset : Charset) (columns : Nat) (s : Text) :
    charset.textWidth (charset.truncate columns s) ≤ columns := by
  induction s generalizing columns with
  | nil => exact Nat.zero_le columns
  | cons c s ih =>
    unfold truncate
    split
    · have hrest := ih (columns - charset.charWidth c)
      rw [textWidth_cons]
      omega
    · exact Nat.zero_le columns

theorem starts_truncate {charset : Charset} {columns : Nat} {s u : Text} (hstarts : u <+: s)
    (hfits : charset.textWidth u ≤ columns) : u <+: charset.truncate columns s := by
  induction s generalizing columns u with
  | nil => exact hstarts
  | cons c s ih =>
    cases u with
    | nil => exact List.nil_prefix
    | cons d u =>
      obtain ⟨rfl, hrest⟩ := List.cons_prefix_cons.1 hstarts
      rw [textWidth_cons] at hfits
      unfold truncate
      rw [if_pos (by omega)]
      exact List.cons_prefix_cons.2 ⟨rfl, ih hrest (by omega)⟩

theorem longestFit_truncate (charset : Charset) (columns : Nat) (s : Text) :
    charset.LongestFit columns s (charset.truncate columns s) :=
  ⟨truncate_starts charset columns s, textWidth_truncate_le charset columns s,
    fun _ => starts_truncate⟩

theorem LongestFit.eq {charset : Charset} {columns : Nat} {s t t' : Text}
    (h : charset.LongestFit columns s t) (h' : charset.LongestFit columns s t') : t = t' :=
  (h'.longest t h.starts h.fits).eq_of_length_le (h.longest t' h'.starts h'.fits).length_le

theorem truncate_append_drop (charset : Charset) (columns : Nat) (s : Text) :
    charset.truncate columns s ++ s.drop (charset.truncate columns s).length = s :=
  List.prefix_iff_eq_append.1 (truncate_starts charset columns s)

/-- The character at which `truncate` cuts does not fit any more. -/
theorem lt_of_drop_truncate {charset : Charset} {columns : Nat} {s rest : Text} {c : Char}
    (h : s.drop (charset.truncate columns s).length = c :: rest) :
    columns < charset.textWidth (charset.truncate columns s) + charset.charWidth c := by
  have hsplit := truncate_append_drop charset columns s
  rw [h] at hsplit
  apply Nat.lt_of_not_le
  intro hle
  have hstarts : charset.truncate columns s ++ [c] <+: s :=
    ⟨rest, by rw [List.append_assoc, List.singleton_append, hsplit]⟩
  have hfits : charset.textWidth (charset.truncate columns s ++ [c]) ≤ columns := by
    rw [textWidth_append, textWidth_cons]
    exact hle
  have hlonger := (starts_truncate hstarts hfits).length_le
  rw [List.length_append, List.length_singleton] at hlonger
  omega

theorem truncate_ne_nil (charset : Charset) {columns : Nat} (hcolumns : 2 ≤ columns) {s : Text}
    (h : s ≠ []) : charset.truncate columns s ≠ [] := by
  cases s with
  | nil => exact absurd rfl h
  | cons c s =>
    have hwidth := (charWidth_bounds charset c).2
    unfold truncate
    rw [if_pos (by omega)]
    exact List.cons_ne_nil _ _

/-! ### Cutting again and again -/

/-- The texts that come of cutting off what fits until nothing is left, or nothing fits. -/
def cuts (charset : Charset) (columns : Nat) (s : Text) : List Text :=
  if charset.truncate columns s = [] then []
  else
    charset.truncate columns s ::
      charset.cuts columns (s.drop (charset.truncate columns s).length)
termination_by s.length
decreasing_by
  have hfirst := List.length_pos_iff.2 ‹_›
  have hle := (truncate_starts charset columns s).length_le
  rw [List.length_drop]
  omega

/-- Whether `t` leaves no place for the first character of `next`. -/
def NoPlace (charset : Charset) (columns : Nat) (t next : Text) : Prop :=
  ∃ c rest, next = c :: rest ∧ columns < charset.textWidth t + charset.charWidth c

variable {charset : Charset} {columns : Nat}

theorem flatten_cuts (hcolumns : 2 ≤ columns) (s : Text) :
    (charset.cuts columns s).flatten = s := by
  fun_induction cuts charset columns s with
  | case1 s hnone =>
    by_cases hs : s = []
    · rw [hs]
      rfl
    · exact absurd hnone (truncate_ne_nil charset hcolumns hs)
  | case2 s hsome ih =>
    rw [List.flatten_cons, ih]
    exact truncate_append_drop charset columns s

theorem nil_notMem_cuts (s : Text) : [] ∉ charset.cuts columns s := by
  fun_induction cuts charset columns s with
  | case1 s hnone => exact List.not_mem_nil
  | case2 s hsome ih =>
    rw [List.mem_cons, not_or]
    exact ⟨Ne.symm hsome, ih⟩

theorem textWidth_le_of_mem_cuts (s : Text) :
    ∀ t ∈ charset.cuts columns s, charset.textWidth t ≤ columns := by
  fun_induction cuts charset columns s with
  | case1 s hnone => nofun
  | case2 s hsome ih =>
    exact List.forall_mem_cons.2 ⟨textWidth_truncate_le charset columns s, ih⟩

theorem isChain_noPlace_cuts (s : Text) :
    (charset.cuts columns s).IsChain (charset.NoPlace columns) := by
  fun_induction cuts charset columns s with
  | case1 s hnone => exact .nil
  | case2 s hsome ih =>
    -- the next text, if there is one, starts where this one was cut
    unfold cuts at ih ⊢
    split
    · exact .singleton _
    · next hnext =>
      rw [if_neg hnext] at ih
      refine .cons_cons ?_ ih
      obtain ⟨c, next, hcons⟩ := List.exists_cons_of_ne_nil hnext
      have hstarts := truncate_starts charset columns
        (s.drop (charset.truncate columns s).length)
      rw [hcons] at hstarts
      obtain ⟨rest, hrest⟩ := hstarts
      exact ⟨c, next, hcons, lt_of_drop_truncate hrest.symm⟩

end Charset

namespace Layout

variable {charset : Charset} {columns : Nat}

theorem width_glyphs_piece {style : TextStyle} (hscale : style.size.widthScale = 1) (t : Text) :
    width charset (Piece.glyphs ⟨t, style⟩) = charset.textWidth t := by
  rw [Piece.glyphs, charset.width_map_style, hscale, Nat.mul_one]

theorem flatten_map_glyphs (style : TextStyle) (ts : List Text) :
    (ts.map fun t => Piece.glyphs ⟨t, style⟩).flatten = Piece.glyphs ⟨ts.flatten, style⟩ := by
  simp only [Piece.glyphs, List.map_flatten]

theorem pieces_glyphs {style : TextStyle} {t : Text} (h : t ≠ []) :
    pieces (Piece.glyphs ⟨t, style⟩) = [⟨t, style⟩] := by
  have happend : pieces (Piece.glyphs ⟨t, style⟩ ++ []) = [⟨t, style⟩] :=
    pieces_glyphs_append h (.singleton _)
  rwa [List.append_nil] at happend

theorem breakLines_eq_cuts (hcolumns : 2 ≤ columns) {style : TextStyle}
    (hscale : style.size.widthScale = 1) {s : Text} (hs : s ≠ []) :
    breakLines charset columns 0 [] (Piece.glyphs ⟨s, style⟩) =
      (charset.cuts columns s).map fun t => Piece.glyphs ⟨t, style⟩ := by
  have hne : Piece.glyphs ⟨s, style⟩ ≠ [] := by simpa [Piece.glyphs] using hs
  have hchar : ∀ g ∈ Piece.glyphs ⟨s, style⟩, g.width charset ≤ columns := by
    simp only [Piece.glyphs, List.forall_mem_map, Glyph.width, hscale, Nat.mul_one]
    intro c _
    exact Nat.le_trans (charset.charWidth_bounds c).2 hcolumns
  -- both are lines that are full before a character follows
  apply eq_of_forced
  · rw [flatten_breakLines, flatten_map_glyphs, Charset.flatten_cuts hcolumns]
    rfl
  · exact nil_notMem_breakLines (.inr ⟨rfl, hne⟩)
  · intro hmem
    obtain ⟨t, ht, hnil⟩ := List.mem_map.1 hmem
    rw [Piece.glyphs, List.map_eq_nil_iff] at hnil
    subst hnil
    exact Charset.nil_notMem_cuts s ht
  · exact width_breakLines_le hchar rfl (Nat.zero_le _)
  · rw [List.forall_mem_map]
    intro t ht
    rw [width_glyphs_piece hscale]
    exact Charset.textWidth_le_of_mem_cuts s t ht
  · exact isChain_forced_breakLines rfl
  · rw [List.isChain_map]
    refine (Charset.isChain_noPlace_cuts s).imp ?_
    rintro t next ⟨c, rest, rfl, hlt⟩
    refine ⟨⟨c, style⟩, Piece.glyphs ⟨rest, style⟩, rfl, ?_⟩
    rw [width_glyphs_piece hscale, Glyph.width, hscale, Nat.mul_one]
    exact hlt

/-- `truncate` gives the `LongestFit`; and lines wrap as `cuts` gives them. -/
theorem truncate_longest_and_wrap_eq_cuts :
    (∀ (charset : Charset) (columns : Nat) (s t : Text),
      charset.truncate columns s = t ↔ charset.LongestFit columns s t) ∧
    ∀ (charset : Charset) (columns : Nat) (run : TextRun),
      run.content ≠ [] → run.style.size.widthScale = 1 → 2 ≤ columns →
        (charset.cuts columns run.content).flatten = run.content ∧
        wrap charset columns [run] =
          (charset.cuts columns run.content).map fun t => [⟨t, run.style⟩] := by
  constructor
  · intro charset columns s t
    have htruncate := Charset.longestFit_truncate charset columns s
    exact ⟨fun h => h ▸ htruncate, fun h => htruncate.eq h⟩
  · intro charset columns run hcontent hscale hcolumns
    refine ⟨Charset.flatten_cuts hcolumns run.content, ?_⟩
    have hglyphs : glyphs [run] = Piece.glyphs ⟨run.content, run.style⟩ :=
      List.append_nil _
    rw [wrap, hglyphs, breakLines_eq_cuts hcolumns hscale hcontent, List.map_map]
    apply List.map_congr_left
    intro t ht
    apply pieces_glyphs
    rintro rfl
    exact Charset.nil_notMem_cuts _ ht

def mixedRun : TextRun := { content := "A中B文字é".toList, style := { size := .tall } }

theorem wrap_mixedRun_eq_cuts :
    mixedRun.content ≠ [] ∧ mixedRun.style.size.widthScale = 1 ∧ 2 ≤ 3 ∧
      (Charset.gbk.cuts 3 mixedRun.content).flatten = mixedRun.content ∧
      wrap .gbk 3 [mixedRun] =
        (Charset.gbk.cuts 3 mixedRun.content).map fun t => [⟨t, mixedRun.style⟩] :=
  have hcontent : mixedRun.content ≠ [] := by decide
  ⟨hcontent, rfl, by decide,
    truncate_longest_and_wrap_eq_cuts.2 .gbk 3 mixedRun hcontent rfl (by decide)⟩

end Layout

end ReceiptPrinter

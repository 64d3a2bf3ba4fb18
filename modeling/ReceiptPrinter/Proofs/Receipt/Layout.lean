import Mathlib.Data.List.Perm.Basic
import ReceiptPrinter.Proofs.CodePage.Columns

/-!
# Lines on paper

Where the characters of a line of runs go. The commands of a line print the lines of `laid`, which
are `Laid`: they hold its characters in order, in groups from left to right where alignments mix,
with blanks only between the groups. No printed line is wider than the paper.
-/

namespace ReceiptPrinter.Layout

def ofAlign (runs : List TextRun) (align : Align) : List TextRun :=
  runs.filter fun run => run.align = align

/-- Whether runs differ in alignment. -/
def Mixed (runs : List TextRun) : Prop := ∃ run ∈ runs, ∃ run' ∈ runs, run.align ≠ run'.align

/-- How runs may stand on paper, as lines under their alignments: the runs of one alignment wrap
under it; runs of several alignments stand on one line, in groups from left to right with blanks
between them, if the groups fit, and each group wraps under its own alignment otherwise. -/
inductive Laid (config : Config) (runs : List TextRun) : List (Align × List Glyph) → Prop
  | single {align : Align} {lines : List (List Glyph)} (halign : ∀ run ∈ runs, run.align = align)
    (hlines : lines.flatten = glyphs runs) : Laid config runs (lines.map fun gs => (align, gs))
  | columns {gap gap' : Nat} (hmixed : Mixed runs)
    (hfits : fits config.charset config.columns (groups runs)) :
    Laid config runs [(.left, glyphs (ofAlign runs .left) ++ List.replicate gap blank ++
      glyphs (ofAlign runs .center) ++ List.replicate gap' blank ++ glyphs (ofAlign runs .right))]
  | stacked {lines : Align → List (List Glyph)} (hmixed : Mixed runs)
    (hfits : ¬fits config.charset config.columns (groups runs))
    (hlines : ∀ a, (lines a).flatten = glyphs (ofAlign runs a)) :
    Laid config runs ([.left, .center, .right].flatMap fun a => (lines a).map fun gs => (a, gs))

def wrapped (charset : Charset) (columns : Nat) (align : Align) (runs : List TextRun) :
    List (Align × List Glyph) :=
  (breakLines charset columns 0 [] (glyphs runs)).map fun gs => (align, gs)

/-- The lines of `runs`, as the commands print them. -/
def laid (config : Config) (runs : List TextRun) : List (Align × List Glyph) :=
  match runs with
  | [] => []
  | first :: _ =>
    let charset := config.charset
    let columns := config.columns
    if runs.all fun run => run.align = first.align then wrapped charset columns first.align runs
    else
      let groups := groups runs
      if fits charset columns groups then [(.left, placeGroups charset columns groups 0 groups)]
      else groups.flatMap fun g => wrapped charset columns g.align g.runs

/-! ### Wrapping -/

theorem flatten_breakLines (charset : Charset) (columns column : Nat) (line gs : List Glyph) :
    (breakLines charset columns column line gs).flatten = line ++ gs := by
  fun_induction breakLines charset columns column line gs with
  | case1 column line => simp
  | case2 column line g gs w hbreak ih => rw [List.flatten_cons, ih]; rfl
  | case3 column line g gs w hbreak ih => rw [ih, List.append_assoc]; rfl

theorem width_append (charset : Charset) (gs gs' : List Glyph) :
    width charset (gs ++ gs') = width charset gs + width charset gs' := by
  simp [width]

theorem width_replicate_blank (charset : Charset) (n : Nat) :
    width charset (List.replicate n blank) = n := by
  have hone : blank.width charset = 1 := rfl
  simp [width, hone]

/-- `breakLines` keeps to the width if every character fits on a line. -/
theorem width_breakLines_le {charset : Charset} {columns column : Nat} {line gs : List Glyph}
    (hchar : ∀ g ∈ gs, g.width charset ≤ columns) (hcolumn : width charset line = column)
    (hle : column ≤ columns) :
    ∀ l ∈ breakLines charset columns column line gs, width charset l ≤ columns := by
  fun_induction breakLines charset columns column line gs with
  | case1 column line => simpa [hcolumn] using hle
  | case2 column line g gs w hbreak ih =>
    rw [List.forall_mem_cons] at hchar
    refine List.forall_mem_cons.2 ⟨by omega, ih hchar.2 ?_ hchar.1⟩
    simp [width, w]
  | case3 column line g gs w hbreak ih =>
    rw [List.forall_mem_cons] at hchar
    refine ih hchar.2 ?_ ?_
    · rw [width_append, hcolumn]
      simp [width, w]
    · have hg := hchar.1
      omega

theorem glyph_width_le (charset : Charset) (g : Glyph) : g.width charset ≤ 4 := by
  have hscale : g.style.size.widthScale ≤ 2 := by cases g.style.size <;> decide
  exact Nat.mul_le_mul (charset.charWidth_bounds g.char).2 hscale

/-- The narrowest paper holds any character at any size. -/
theorem columns_ge (config : Config) : 28 ≤ config.columns := by
  rcases hgeometry : config.geometry with ⟨paper, density⟩
  rw [Config.columns, hgeometry]
  cases paper <;> cases density <;> decide

/-! ### Groups -/

def groupOf (runs : List TextRun) (align : Align) : List Group :=
  [⟨align, ofAlign runs align⟩].filter fun group => group.runs.any fun run => !run.content.isEmpty

theorem groups_eq (runs : List TextRun) :
    groups runs = groupOf runs .left ++ groupOf runs .center ++ groupOf runs .right := by
  rw [groupOf, groupOf, groupOf, ← List.filter_append, ← List.filter_append]
  rfl

theorem groupOf_cases (runs : List TextRun) (align : Align) :
    (groupOf runs align = [] ∧ glyphs (ofAlign runs align) = []) ∨
      groupOf runs align = [⟨align, ofAlign runs align⟩] := by
  rw [groupOf, List.filter_cons, List.filter_nil]
  split
  · exact .inr rfl
  · next hany =>
    refine .inl ⟨rfl, List.flatMap_eq_nil_iff.2 fun run hrun => ?_⟩
    have hempty : run.content = [] := by
      simp only [List.any_eq_true, Bool.not_eq_true', List.isEmpty_eq_false_iff, not_exists,
        not_and, not_not] at hany
      exact hany run hrun
    rw [hempty, List.map_nil]

/-- The column after groups that start where there is place. -/
def endColumn (charset : Charset) (columns : Nat) (all : List Group) (column : Nat)
    (gs : List Group) : Nat :=
  gs.foldl (fun column g => max (startColumn charset columns all g) column + g.width charset) column

theorem width_placeGroups (charset : Charset) (columns : Nat) (all : List Group) (column : Nat)
    (gs : List Group) :
    column + width charset (placeGroups charset columns all column gs) =
      endColumn charset columns all column gs := by
  induction gs generalizing column with
  | nil => rfl
  | cons g gs ih =>
    rw [endColumn, List.foldl_cons, ← endColumn, ← ih, placeGroups, width_append, width_append,
      width_replicate_blank, ← Group.width]
    omega

section
variable {charset : Charset} {columns : Nat}

theorem startColumn_left (all : List Group) (runs : List TextRun) :
    startColumn charset columns all ⟨.left, runs⟩ = 0 := rfl

theorem startColumn_right (all : List Group) (runs : List TextRun) :
    startColumn charset columns all ⟨.right, runs⟩ = columns - width charset (glyphs runs) := rfl

theorem startColumn_center (all : List Group) (runs : List TextRun) :
    startColumn charset columns all ⟨.center, runs⟩ =
      max (((widthOf? charset all .left).map (· + 1)).getD 0)
        (min ((columns - width charset (glyphs runs)) / 2)
          (max ((widthOf? charset all .right).elim (columns - width charset (glyphs runs))
              fun right => columns - (right + 1 + width charset (glyphs runs)))
            (((widthOf? charset all .left).map (· + 1)).getD 0))) := by
  rw [startColumn]
  cases widthOf? charset all .right <;> rfl

/-- Groups that fit end within the line. -/
theorem endColumn_le {l c r : List Group} (hl : l = [] ∨ ∃ runs, l = [⟨.left, runs⟩])
    (hc : c = [] ∨ ∃ runs, c = [⟨.center, runs⟩]) (hr : r = [] ∨ ∃ runs, r = [⟨.right, runs⟩])
    (hfits : fits charset columns (l ++ c ++ r)) :
    endColumn charset columns (l ++ c ++ r) 0 (l ++ c ++ r) ≤ columns := by
  -- which groups are there decides how far the center may move
  rcases hl with rfl | ⟨left, rfl⟩ <;> rcases hc with rfl | ⟨center, rfl⟩ <;>
    rcases hr with rfl | ⟨right, rfl⟩ <;>
    simp [fits, endColumn, startColumn_left, startColumn_center, startColumn_right, widthOf?,
      Group.width] at hfits ⊢ <;> omega

theorem width_placeGroups_le {runs : List TextRun} (hfits : fits charset columns (groups runs)) :
    width charset (placeGroups charset columns (groups runs) 0 (groups runs)) ≤ columns := by
  have hgroup : ∀ a, groupOf runs a = [] ∨ ∃ runs', groupOf runs a = [⟨a, runs'⟩] := fun a =>
    (groupOf_cases runs a).imp And.left fun h => ⟨_, h⟩
  have hwidth := width_placeGroups charset columns (groups runs) 0 (groups runs)
  rw [Nat.zero_add] at hwidth
  rw [hwidth]
  rw [groups_eq] at hfits ⊢
  exact endColumn_le (hgroup .left) (hgroup .center) (hgroup .right) hfits

theorem exists_placeGroups_groupOf (charset : Charset) (columns : Nat) (all : List Group)
    (column : Nat) (runs : List TextRun) (align : Align) (rest : List Group) :
    ∃ gap column', (align = .left → gap = 0) ∧
      placeGroups charset columns all column (groupOf runs align ++ rest) =
        List.replicate gap blank ++ glyphs (ofAlign runs align) ++
          placeGroups charset columns all column' rest := by
  rcases groupOf_cases runs align with ⟨hnone, hempty⟩ | hone
  · exact ⟨0, column, fun _ => rfl, by rw [hnone, hempty]; rfl⟩
  · refine ⟨_, _, ?_, by rw [hone]; rfl⟩
    rintro rfl
    exact Nat.zero_sub column

/-- `placeGroups` puts the groups in order, with blanks only between them. -/
theorem exists_placeGroups_eq (charset : Charset) (columns : Nat) (all : List Group)
    (runs : List TextRun) :
    ∃ gap gap', placeGroups charset columns all 0 (groups runs) =
      glyphs (ofAlign runs .left) ++ List.replicate gap blank ++ glyphs (ofAlign runs .center) ++
        List.replicate gap' blank ++ glyphs (ofAlign runs .right) := by
  obtain ⟨none, afterLeft, hnone, hleft⟩ := exists_placeGroups_groupOf charset columns all 0 runs
    .left (groupOf runs .center ++ groupOf runs .right)
  obtain ⟨gap, afterCenter, -, hcenter⟩ := exists_placeGroups_groupOf charset columns all afterLeft
    runs .center (groupOf runs .right)
  obtain ⟨gap', afterRight, -, hright⟩ := exists_placeGroups_groupOf charset columns all
    afterCenter runs .right []
  refine ⟨gap, gap', ?_⟩
  rw [List.append_nil] at hright
  rw [groups_eq, List.append_assoc, hleft, hcenter, hright, hnone rfl, placeGroups]
  simp

/-! ### Whole lines -/

theorem mixed_of_not_all {first : TextRun} {rest : List TextRun}
    (h : ¬((first :: rest).all fun run => run.align = first.align) = true) :
    Mixed (first :: rest) := by
  simp only [List.all_eq_true, decide_eq_true_eq, not_forall] at h
  obtain ⟨run, hrun, hne⟩ := h
  exact ⟨run, hrun, first, List.mem_cons_self, hne⟩

def groupLines (charset : Charset) (columns : Nat) (runs : List TextRun) (align : Align) :
    List (List Glyph) :=
  (groupOf runs align).flatMap fun g => breakLines charset columns 0 [] (glyphs g.runs)

theorem flatten_groupLines (charset : Charset) (columns : Nat) (runs : List TextRun)
    (align : Align) :
    (groupLines charset columns runs align).flatten = glyphs (ofAlign runs align) := by
  rw [groupLines]
  rcases groupOf_cases runs align with ⟨hnone, hempty⟩ | hone
  · rw [hnone, hempty]
    rfl
  · rw [hone, List.flatMap_singleton]
    exact flatten_breakLines charset columns 0 [] _

theorem flatMap_wrapped_groupOf (runs : List TextRun) (align : Align) :
    ((groupOf runs align).flatMap fun g => wrapped charset columns g.align g.runs) =
      (groupLines charset columns runs align).map fun gs => (align, gs) := by
  rw [groupLines]
  rcases groupOf_cases runs align with ⟨hnone, -⟩ | hone
  · rw [hnone]
    rfl
  · rw [hone, List.flatMap_singleton, List.flatMap_singleton]
    rfl

theorem laid_laid {config : Config} {runs : List TextRun} (hne : runs ≠ []) :
    Laid config runs (laid config runs) := by
  cases runs with
  | nil => exact absurd rfl hne
  | cons first rest =>
    rw [laid]
    simp only
    split
    · next hall =>
      simp only [List.all_eq_true, decide_eq_true_eq] at hall
      exact .single hall (flatten_breakLines config.charset config.columns 0 [] _)
    · next hall =>
      have hmixed := mixed_of_not_all hall
      split
      · next hfits =>
        obtain ⟨gap, gap', hplace⟩ := exists_placeGroups_eq config.charset config.columns
          (groups (first :: rest)) (first :: rest)
        rw [hplace]
        exact .columns hmixed hfits
      · next hfits =>
        have hlines := Laid.stacked hmixed hfits
          (flatten_groupLines config.charset config.columns (first :: rest))
        rw [groups_eq, List.flatMap_append, List.flatMap_append, flatMap_wrapped_groupOf,
          flatMap_wrapped_groupOf, flatMap_wrapped_groupOf]
        simpa using hlines

/-- No line of `laid` is wider than the paper. -/
theorem width_laid_le {config : Config} {runs : List TextRun} :
    ∀ line ∈ laid config runs, width config.charset line.2 ≤ config.columns := by
  have hchar : ∀ g : Glyph, g.width config.charset ≤ config.columns := fun g =>
    Nat.le_trans (glyph_width_le config.charset g) (Nat.le_trans (by decide) (columns_ge config))
  have hwrapped : ∀ align runs, ∀ line ∈ wrapped config.charset config.columns align runs,
      width config.charset line.2 ≤ config.columns := fun align runs =>
    List.forall_mem_map.2 (width_breakLines_le (fun g _ => hchar g) rfl (Nat.zero_le _))
  cases runs with
  | nil => simp [laid]
  | cons first rest =>
    rw [laid]
    simp only
    split
    · exact hwrapped _ _
    · split
      · next hfits => simpa using width_placeGroups_le hfits
      · intro line hline
        obtain ⟨g, -, hline⟩ := List.mem_flatMap.1 hline
        exact hwrapped _ _ line hline

/-! ### No character is lost -/

theorem perm_ofAlign (runs : List TextRun) :
    (ofAlign runs .left ++ ofAlign runs .center ++ ofAlign runs .right).Perm runs := by
  induction runs with
  | nil => exact .nil
  | cons run runs ih =>
    cases halign : run.align with
    | left => simpa [ofAlign, halign] using ih
    | center =>
      simp only [ofAlign, List.filter_cons, halign, List.append_assoc] at ih ⊢
      simpa using List.perm_middle.trans (ih.cons run)
    | right =>
      simp only [ofAlign, List.filter_cons, halign] at ih ⊢
      simpa using List.perm_middle.trans (ih.cons run)

theorem perm_glyphs_ofAlign (runs : List TextRun) :
    (glyphs (ofAlign runs .left) ++ glyphs (ofAlign runs .center) ++
      glyphs (ofAlign runs .right)).Perm (glyphs runs) := by
  simp only [glyphs, ← List.flatMap_append]
  exact (perm_ofAlign runs).flatMap_right _

/-- `Laid` lines hold every character of their runs once, and blanks. -/
theorem Laid.perm {config : Config} {runs : List TextRun} {lines : List (Align × List Glyph)}
    (h : Laid config runs lines) :
    ∃ n, (lines.flatMap Prod.snd).Perm (glyphs runs ++ List.replicate n blank) := by
  have hgroups := perm_glyphs_ofAlign runs
  cases h with
  | single halign hlines =>
    refine ⟨0, ?_⟩
    rw [List.flatMap_map, List.flatMap_id', hlines, List.replicate_zero, List.append_nil]
  | @columns gap gap' hmixed hfits =>
    refine ⟨gap + gap', List.perm_iff_count.2 fun g => ?_⟩
    have hcount := hgroups.count_eq g
    rw [List.flatMap_singleton, ← List.replicate_append_replicate]
    simp only [List.count_append] at hcount ⊢
    omega
  | stacked hmixed hfits hlines =>
    refine ⟨0, ?_⟩
    simpa [List.flatMap_map, List.flatMap_id', hlines] using hgroups

/-! ### Printing -/

theorem printing_align {p : Printer} (h : charset.Rests p) (align : Align) :
    Printing charset p [.align align] [] [] :=
  printing_silent rfl (List.append_nil _).symm rfl
    (h.congr rfl rfl rfl rfl rfl rfl)

theorem printing_wrappedCommands {p : Printer} (h : charset.Rests p) (columns : Nat)
    (align : Align) (runs : List TextRun) :
    Printing charset p (wrappedCommands charset columns align runs)
      ((wrapped charset columns align runs).flatMap Prod.snd)
      ((wrapped charset columns align runs).map fun line => charset.imprint line.1 line.2) := by
  have halign := printing_align h align
  have hlines := printing_lines halign.rests (breakLines charset columns 0 [] (glyphs runs))
  rw [wrapped, List.flatMap_map, List.flatMap_id', List.map_map, wrappedCommands, wrap,
    List.flatMap_map]
  exact halign.append hlines

theorem printing_groups {p : Printer} (h : charset.Rests p) (gs : List Group) :
    Printing charset p (gs.flatMap fun g => wrappedCommands charset columns g.align g.runs)
      ((gs.flatMap fun g => wrapped charset columns g.align g.runs).flatMap Prod.snd)
      ((gs.flatMap fun g => wrapped charset columns g.align g.runs).map fun line =>
        charset.imprint line.1 line.2) := by
  induction gs generalizing p with
  | nil => exact printing_nil h
  | cons g gs ih =>
    have hfirst := printing_wrappedCommands h columns g.align g.runs
    simp only [List.flatMap_cons, List.flatMap_append, List.map_append]
    exact hfirst.append (ih hfirst.rests)

/-- The printer prints `commands config runs` as the lines of `laid`. -/
theorem printing_commands {config : Config} {p : Printer} (h : config.charset.Rests p)
    (runs : List TextRun) :
    Printing config.charset p (commands config runs) ((laid config runs).flatMap Prod.snd)
      ((laid config runs).map fun line => config.charset.imprint line.1 line.2) := by
  cases runs with
  | nil => exact printing_nil h
  | cons first rest =>
    rw [commands, laid]
    simp only
    split
    · exact printing_wrappedCommands h _ _ _
    · split
      · have halign := printing_align h .left
        have hline := (printing_lineCommands halign.rests (pieces (placeGroups config.charset
          config.columns (groups (first :: rest)) 0 (groups (first :: rest))))).1
        rw [flatMap_pieces] at hline
        rw [List.flatMap_singleton]
        exact halign.append hline
      · exact printing_groups h _

end

end ReceiptPrinter.Layout

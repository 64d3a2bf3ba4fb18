import Mathlib.Algebra.Order.BigOperators.Group.List
import Mathlib.Data.Nat.Dist
import ReceiptPrinter.Proofs.Receipt.Wrapping

/-!
# Columns

Runs that mix alignments form a group for each alignment that has any text. `Arranged` has two
cases. Groups that do not fit on the paper side by side, with a blank between neighbours, wrap one
after the other, each under its own alignment; groups that fit stand on one line (`InColumns`), the
left one at its start, the right one at its end, and the center one in the middle or as near to it
as its neighbours let it.
-/

namespace ReceiptPrinter.Layout

/-! ### Groups -/

/-- The alignments that have any text, from left to right. -/
def present (runs : List TextRun) : List Align :=
  [.left, .center, .right].filter fun a => ∃ run ∈ runs, run.align = a ∧ run.content ≠ []

def alignWidth (charset : Charset) (runs : List TextRun) (a : Align) : Nat :=
  width charset (glyphs (ofAlign runs a))

/-- The columns that groups take side by side, with one blank between neighbours. -/
def neededColumns (charset : Charset) (runs : List TextRun) : Nat :=
  ((present runs).map (alignWidth charset runs)).sum + ((present runs).length - 1)

/-- Groups on a line from a column on: each starts in its column, with blanks only before it, and
nothing follows the last one. -/
inductive Placed (charset : Charset) (runs : List TextRun) (start : Align → Nat) :
    Nat → List Align → List Glyph → Prop
  | nil (column : Nat) : Placed charset runs start column [] []
  | cons {column : Nat} {a : Align} {rest : List Align} {line : List Glyph}
    (hle : column ≤ start a)
    (hrest : Placed charset runs start (start a + alignWidth charset runs a) rest line) :
    Placed charset runs start column (a :: rest)
      (List.replicate (start a - column) blank ++ glyphs (ofAlign runs a) ++ line)

/-- Whether the center group leaves a blank to each neighbour if it starts in `column`. -/
def IsClear (charset : Charset) (columns : Nat) (runs : List TextRun) (column : Nat) : Prop :=
  (.left ∈ present runs → alignWidth charset runs .left + 1 ≤ column) ∧
  (.right ∈ present runs → column + alignWidth charset runs .center + 1 +
    alignWidth charset runs .right ≤ columns)

/-- The column in which the center group stands in the middle. -/
def middle (charset : Charset) (columns : Nat) (runs : List TextRun) : Nat :=
  (columns - alignWidth charset runs .center) / 2

/-- Whether a line shows groups in columns, each from its `start` on. -/
structure InColumns (charset : Charset) (columns : Nat) (runs : List TextRun)
    (start : Align → Nat) (line : List Glyph) : Prop where
  placed : Placed charset runs start 0 (present runs) line
  width_le : width charset line ≤ columns
  apart : (present runs).IsChain fun a b => start a + alignWidth charset runs a + 1 ≤ start b
  left : .left ∈ present runs → start .left = 0
  right : .right ∈ present runs → start .right + alignWidth charset runs .right = columns
  center_clear : .center ∈ present runs → IsClear charset columns runs (start .center)
  center_middle : .center ∈ present runs →
    IsClear charset columns runs (middle charset columns runs) →
      start .center = middle charset columns runs
  /-- No column that leaves a blank to each neighbour is nearer to the middle. -/
  center_nearest : .center ∈ present runs → ∀ column, IsClear charset columns runs column →
    (start .center).dist (middle charset columns runs) ≤ column.dist (middle charset columns runs)

/-- How runs of several alignments stand on paper, as lines under their alignments. -/
inductive Arranged (config : Config) (runs : List TextRun) : List (Align × List Glyph) → Prop
  | stacked {lines : Align → List (List Piece)}
    (hwide : config.columns < neededColumns config.charset runs)
    (hwraps : ∀ a, Wraps config.charset config.columns (ofAlign runs a) (lines a)) :
    Arranged config runs ((present runs).flatMap fun a =>
      (lines a).map fun line => (a, line.flatMap Piece.glyphs))
  | columns {start : Align → Nat} {line : List Glyph}
    (hfits : neededColumns config.charset runs ≤ config.columns)
    (hline : InColumns config.charset config.columns runs start line) :
    Arranged config runs [(.left, line)]

theorem groups_eq_map_present (runs : List TextRun) :
    groups runs = (present runs).map fun a => ⟨a, ofAlign runs a⟩ := by
  have hany : ∀ a, ((ofAlign runs a).any fun run => !run.content.isEmpty) =
      decide (∃ run ∈ runs, run.align = a ∧ run.content ≠ []) := by
    intro a
    rw [Bool.eq_iff_iff]
    simp [ofAlign]
  rw [groups, present, List.filter_map]
  congr 1
  exact List.filter_congr fun a _ => hany a

theorem fits_groups_iff {charset : Charset} {columns : Nat} {runs : List TextRun} :
    fits charset columns (groups runs) = true ↔ neededColumns charset runs ≤ columns := by
  rw [fits, decide_eq_true_eq, groups_eq_map_present, List.map_map, List.length_map, neededColumns]
  rfl

/-! ### Start columns -/

section
variable {charset : Charset} {columns : Nat} {runs : List TextRun}

def alignStart (charset : Charset) (columns : Nat) (runs : List TextRun) (a : Align) : Nat :=
  startColumn charset columns (groups runs) ⟨a, ofAlign runs a⟩

theorem widthOf?_groups (charset : Charset) (runs : List TextRun) (a : Align) :
    widthOf? charset (groups runs) a =
      if a ∈ present runs then some (alignWidth charset runs a) else none := by
  have hfind : (present runs).find? (fun b => decide (b = a)) =
      if a ∈ present runs then some a else none := by
    split
    · next hmem =>
      have hsome : ((present runs).find? fun b => decide (b = a)).isSome = true :=
        List.find?_isSome.2 ⟨a, hmem, decide_eq_true rfl⟩
      obtain ⟨b, hb⟩ := Option.isSome_iff_exists.1 hsome
      have heq := List.find?_some hb
      rw [hb, of_decide_eq_true heq]
    · next hnot =>
      rw [List.find?_eq_none]
      intro b hb hab
      exact hnot (of_decide_eq_true hab ▸ hb)
  rw [widthOf?, groups_eq_map_present, List.find?_map, Option.map_map]
  simp only [Function.comp_def, hfind]
  split <;> rfl

/-- The columns that a neighbour takes from the center group: its own and a blank. -/
def room (charset : Charset) (runs : List TextRun) (a : Align) : Nat :=
  if a ∈ present runs then alignWidth charset runs a + 1 else 0

theorem room_of_mem {a : Align} (h : a ∈ present runs) :
    room charset runs a = alignWidth charset runs a + 1 := if_pos h

/-- The center group starts in the `middle`, moved as little as its neighbours ask for. -/
theorem alignStart_center (charset : Charset) (columns : Nat) (runs : List TextRun) :
    alignStart charset columns runs .center =
      max (room charset runs .left) (min (middle charset columns runs)
        (max (columns - alignWidth charset runs .center - room charset runs .right)
          (room charset runs .left))) := by
  rw [alignStart, startColumn_center, widthOf?_groups, widthOf?_groups, middle, room, room,
    ← alignWidth]
  by_cases hleft : Align.left ∈ present runs <;> by_cases hright : Align.right ∈ present runs <;>
    simp [hleft, hright] <;> omega

theorem placed_placeGroups {column : Nat} {as : List Align}
    (hle : ∀ a ∈ as.head?, column ≤ alignStart charset columns runs a)
    (hapart : as.IsChain fun a b => alignStart charset columns runs a +
      alignWidth charset runs a + 1 ≤ alignStart charset columns runs b) :
    Placed charset runs (alignStart charset columns runs) column as
      (placeGroups charset columns (groups runs) column
        (as.map fun a => ⟨a, ofAlign runs a⟩)) := by
  induction as generalizing column with
  | nil => exact .nil column
  | cons a as ih =>
    have ha := hle a rfl
    have hmax : max (alignStart charset columns runs a) column = alignStart charset columns runs a :=
      Nat.max_eq_left ha
    rw [List.map_cons, placeGroups, ← alignStart, hmax]
    refine .cons ha (ih (fun b hb => ?_) hapart.tail)
    cases as with
    | nil => cases hb
    | cons b' as =>
      cases hb
      exact Nat.le_of_succ_le (List.isChain_cons_cons.1 hapart).1

theorem present_cases (runs : List TextRun) :
    present runs ∈ [[], [.left], [.center], [.right], [.left, .center], [.left, .right],
      [.center, .right], [.left, .center, .right]] := by
  rw [present, List.filter_cons, List.filter_cons, List.filter_cons, List.filter_nil]
  split <;> split <;> split <;> simp

theorem center_room (hfits : neededColumns charset runs ≤ columns)
    (hcenter : .center ∈ present runs) :
    room charset runs .left + alignWidth charset runs .center + room charset runs .right ≤
      columns := by
  have hcases := present_cases runs
  simp only [List.mem_cons, List.not_mem_nil, or_false] at hcases
  rcases hcases with h | h | h | h | h | h | h | h <;>
    simp [h, neededColumns, room] at hfits hcenter ⊢ <;> omega

/-- Groups that fit are a blank apart. -/
theorem isChain_alignStart (hfits : neededColumns charset runs ≤ columns) :
    (present runs).IsChain fun a b => alignStart charset columns runs a +
      alignWidth charset runs a + 1 ≤ alignStart charset columns runs b := by
  have hleft : alignStart charset columns runs .left = 0 := rfl
  have hright : alignStart charset columns runs .right =
    columns - alignWidth charset runs .right := rfl
  have hcenter := alignStart_center charset columns runs
  have hmiddle : middle charset columns runs =
    (columns - alignWidth charset runs .center) / 2 := rfl
  have hcases := present_cases runs
  simp only [List.mem_cons, List.not_mem_nil, or_false] at hcases
  rcases hcases with h | h | h | h | h | h | h | h <;>
    simp [h, neededColumns, room, hleft, hright] at hfits hcenter ⊢ <;> omega

theorem isClear_alignStart (hfits : neededColumns charset runs ≤ columns)
    (hcenter : .center ∈ present runs) :
    IsClear charset columns runs (alignStart charset columns runs .center) := by
  have hroom := center_room hfits hcenter
  have hmiddle : middle charset columns runs =
    (columns - alignWidth charset runs .center) / 2 := rfl
  rw [alignStart_center]
  constructor
  · intro hleft
    rw [room_of_mem hleft] at hroom ⊢
    omega
  · intro hright
    rw [room_of_mem hright] at hroom ⊢
    omega

/-- No clear column is nearer to the `middle` than the start of the center group. -/
theorem dist_alignStart_le (hfits : neededColumns charset runs ≤ columns)
    (hcenter : .center ∈ present runs) {column : Nat}
    (hclear : IsClear charset columns runs column) :
    (alignStart charset columns runs .center).dist (middle charset columns runs) ≤
      column.dist (middle charset columns runs) := by
  have hroom := center_room hfits hcenter
  have hmiddle : middle charset columns runs =
    (columns - alignWidth charset runs .center) / 2 := rfl
  have hleft : room charset runs .left ≤ column := by
    rw [room]
    split
    · next hmem => exact hclear.1 hmem
    · exact Nat.zero_le column
  -- without a right neighbour the middle itself is not too far to the right
  have hright : room charset runs .right = 0 ∨
      column + alignWidth charset runs .center + room charset runs .right ≤ columns := by
    rw [room]
    split
    · next hmem =>
      have hclear := hclear.2 hmem
      omega
    · exact .inl rfl
  rw [alignStart_center, Nat.dist, Nat.dist]
  omega

/-- `placeGroups` puts groups that fit `InColumns`. -/
theorem inColumns_placeGroups (hfits : neededColumns charset runs ≤ columns) :
    InColumns charset columns runs (alignStart charset columns runs)
      (placeGroups charset columns (groups runs) 0 (groups runs)) := by
  constructor
  case placed =>
    have hplaced := placed_placeGroups (fun a _ => Nat.zero_le _) (isChain_alignStart hfits)
    rwa [← groups_eq_map_present] at hplaced
  case width_le => exact width_placeGroups_le (fits_groups_iff.2 hfits)
  case apart => exact isChain_alignStart hfits
  case left => exact fun _ => rfl
  case right =>
    intro hright
    have hle : alignWidth charset runs .right ≤ neededColumns charset runs :=
      Nat.le_trans (List.le_sum_of_mem (List.mem_map_of_mem hright)) (Nat.le_add_right _ _)
    exact Nat.sub_add_cancel (Nat.le_trans hle hfits)
  case center_clear => exact isClear_alignStart hfits
  case center_middle =>
    intro hcenter hclear
    have hdist := dist_alignStart_le hfits hcenter hclear
    rw [Nat.dist_self, Nat.le_zero] at hdist
    exact Nat.eq_of_dist_eq_zero hdist
  case center_nearest => exact fun hcenter column => dist_alignStart_le hfits hcenter

/-! ### Arrangements -/

theorem arranged_laid {config : Config} (hmixed : Mixed runs) :
    Arranged config runs (laid config runs) := by
  obtain ⟨run, hrun, run', hrun', hne⟩ := hmixed
  cases runs with
  | nil => cases hrun
  | cons first rest =>
    have hall : ¬((first :: rest).all fun r => r.align = first.align) = true := by
      intro hall
      have heq : ∀ r ∈ first :: rest, r.align = first.align := by simpa using hall
      exact hne ((heq run hrun).trans (heq run' hrun').symm)
    simp only [laid, if_neg hall]
    split
    · next hfits =>
      have hfits' := fits_groups_iff.1 hfits
      exact .columns hfits' (inColumns_placeGroups hfits')
    · next hwide =>
      have hwide' := Nat.lt_of_not_le (mt fits_groups_iff.2 hwide)
      have hstacked := Arranged.stacked hwide' fun a =>
        wraps_wrap config.charset config (ofAlign (first :: rest) a)
      have hlines : ∀ a, (wrap config.charset config.columns (ofAlign (first :: rest) a)).map
          (fun line => (a, line.flatMap Piece.glyphs)) =
          wrapped config.charset config.columns a (ofAlign (first :: rest) a) := by
        intro a
        rw [wrapped, ← glyphs_wrap, List.map_map]
        rfl
      simp only [hlines] at hstacked
      rwa [groups_eq_map_present, List.flatMap_map]

/-- The printer prints the commands of mixed runs as `Arranged` lines. -/
theorem exists_arranged_printing {config : Config} (hmixed : Mixed runs) :
    ∃ lines, Arranged config runs lines ∧ ∀ p : Printer, config.charset.Rests p →
      Printing config.charset p (commands config runs) (lines.flatMap Prod.snd)
        (lines.map fun line => config.charset.imprint line.1 line.2) :=
  ⟨laid config runs, arranged_laid hmixed, fun _ hp => printing_commands hp runs⟩

def priceRow : List TextRun :=
  [{ content := "Tea".toList }, { content := "x2".toList, align := .center },
    { content := "9.00".toList, align := .right, style := { size := .big } }]

theorem exists_arranged_printing_priceRow :
    ∃ config, Config.build { host := some "a".toList } = .ok config ∧ Mixed priceRow ∧
    ∃ p lines, config.charset.Rests p ∧ Arranged config priceRow lines ∧
      Printing config.charset p (commands config priceRow) (lines.flatMap Prod.snd)
        (lines.map fun line => config.charset.imprint line.1 line.2) := by
  let p : Printer := Printer.run {} Charset.gbk.preamble
  have hrests : Charset.gbk.Rests p := ⟨rfl, ⟨rfl, rfl⟩, rfl, rfl⟩
  have hmixed : Mixed priceRow :=
    ⟨_, List.mem_cons_self, _, List.mem_cons_of_mem _ List.mem_cons_self, by decide⟩
  refine ⟨_, rfl, hmixed, ?_⟩
  obtain ⟨lines, harranged, hprinting⟩ := exists_arranged_printing hmixed
  exact ⟨p, lines, hrests, harranged, hprinting p hrests⟩

end

end ReceiptPrinter.Layout

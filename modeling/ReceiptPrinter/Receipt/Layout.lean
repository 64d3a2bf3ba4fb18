import ReceiptPrinter.Config.Basic

/-!
# Layout of text lines

A line of one alignment wraps wherever the next character does not fit. A line that mixes
alignments is laid out in columns on one printed line when its groups fit with a blank between
neighbours; otherwise each group wraps under its own alignment.
-/

namespace ReceiptPrinter.Layout

/-- A character in its style. -/
structure Glyph where
  char : Char
  style : TextStyle
  deriving DecidableEq, Repr

/-- A stretch of text in one style. -/
structure Piece where
  text : Text
  style : TextStyle
  deriving DecidableEq, Repr

def glyphs (runs : List TextRun) : List Glyph :=
  runs.flatMap fun run => run.content.map fun c => ⟨c, run.style⟩

def Glyph.width (charset : Charset) (g : Glyph) : Nat :=
  charset.charWidth g.char * g.style.size.widthScale

/-- Columns taken by `gs` in their styles. -/
def width (charset : Charset) (gs : List Glyph) : Nat := (gs.map (Glyph.width charset)).sum

/-- Puts `g` before pieces, joining it to a piece of its style. -/
def consGlyph (g : Glyph) : List Piece → List Piece
  | [] => [⟨[g.char], g.style⟩]
  | p :: ps => if p.style = g.style then ⟨g.char :: p.text, p.style⟩ :: ps
    else ⟨[g.char], g.style⟩ :: p :: ps

/-- The pieces of characters: neighbours of one style stay together. -/
def pieces : List Glyph → List Piece
  | [] => []
  | g :: gs => consGlyph g (pieces gs)

/-- Breaks characters into lines, the first of which has `column` columns taken and starts with
`line`; a line is broken where the next character does not fit, unless it is still empty. -/
def breakLines (charset : Charset) (columns column : Nat) (line : List Glyph) :
    List Glyph → List (List Glyph)
  | [] => [line]
  | g :: gs =>
    let w := g.width charset
    if columns < column + w ∧ 0 < column then line :: breakLines charset columns w [g] gs
    else breakLines charset columns (column + w) (line ++ [g]) gs

/-- The printed lines of `runs`, cut by `breakLines`. -/
def wrap (charset : Charset) (columns : Nat) (runs : List TextRun) : List (List Piece) :=
  (breakLines charset columns 0 [] (glyphs runs)).map pieces

/-- The runs of one alignment on a line. -/
structure Group where
  align : Align
  runs : List TextRun
  deriving DecidableEq, Repr

/-- The groups of a line that hold any text, from left to right. -/
def groups (runs : List TextRun) : List Group :=
  ([Align.left, .center, .right].map fun align =>
    (⟨align, runs.filter fun run => run.align = align⟩ : Group)).filter
    fun group => group.runs.any fun run => !run.content.isEmpty

def Group.width (charset : Charset) (g : Group) : Nat := Layout.width charset (glyphs g.runs)

/-- A blank in the default style. -/
def blank : Glyph := ⟨' ', {}⟩

def widthOf? (charset : Charset) (groups : List Group) (align : Align) : Option Nat :=
  (groups.find? fun g => g.align = align).map (Group.width charset)

/-- The column in which `g` starts: at the left edge, in the middle as far as its neighbours leave a
blank, or up to the right edge. -/
def startColumn (charset : Charset) (columns : Nat) (groups : List Group) (g : Group) : Nat :=
  let w := g.width charset
  match g.align with
  | .left => 0
  | .center =>
    let least := ((widthOf? charset groups .left).map (· + 1)).getD 0
    let most := match widthOf? charset groups .right with
      | some right => columns - (right + 1 + w)
      | none => columns - w
    max least (min ((columns - w) / 2) (max most least))
  | .right => columns - w

/-- The characters of groups on one line whose first `column` columns are taken. -/
def placeGroups (charset : Charset) (columns : Nat) (all : List Group) (column : Nat) :
    List Group → List Glyph
  | [] => []
  | g :: rest =>
    let start := startColumn charset columns all g
    List.replicate (start - column) blank ++ glyphs g.runs ++
      placeGroups charset columns all (max start column + g.width charset) rest

/-- Whether `groups` fit on one line with a blank between neighbours. -/
def fits (charset : Charset) (columns : Nat) (groups : List Group) : Bool :=
  (groups.map (Group.width charset)).sum + (groups.length - 1) ≤ columns

def changeStyle (current wanted : TextStyle) : List Command :=
  (if current.bold = wanted.bold then [] else [.bold wanted.bold]) ++
    (if current.underline = wanted.underline then [] else [.underline wanted.underline]) ++
    (if current.size = wanted.size then [] else [.size wanted.size])

/-- Commands that print pieces from the style `current` on and end in the default style. -/
def pieceCommands (charset : Charset) (current : TextStyle) : List Piece → List Command
  | [] => changeStyle current {}
  | p :: ps =>
    changeStyle current p.style ++ charset.textCommands p.text ++ pieceCommands charset p.style ps

def lineCommands (charset : Charset) (line : List Piece) : List Command :=
  pieceCommands charset {} line ++ [.lineFeed]

def wrappedCommands (charset : Charset) (columns : Nat) (align : Align) (runs : List TextRun) :
    List Command :=
  .align align :: (wrap charset columns runs).flatMap (lineCommands charset)

/-- Commands that print one line of `runs`: columns if it has several groups and they fit, otherwise
each group wrapped. -/
def commands (config : Config) (runs : List TextRun) : List Command :=
  match runs with
  | [] => []
  | first :: _ =>
    let charset := config.charset
    let columns := config.columns
    if runs.all fun run => run.align = first.align then
      wrappedCommands charset columns first.align runs
    else
      let groups := groups runs
      if fits charset columns groups then
        .align .left :: lineCommands charset (pieces (placeGroups charset columns groups 0 groups))
      else groups.flatMap fun g => wrappedCommands charset columns g.align g.runs

end ReceiptPrinter.Layout

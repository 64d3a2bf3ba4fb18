import ReceiptPrinter.Proofs.Printer.Basic
import ReceiptPrinter.Proofs.Receipt.Framing

/-!
# Printing characters

A character is printed by a few commands that leave one mark in the line buffer and the printer in
the code page of the preamble; the euro sign visits another code table on the way. A line of pieces
goes through the styles of its pieces and ends in the default style. The commands of a printed line
type its characters one by one (`Types`), each in its own style, and put them on the paper as one
line (`Printing`). Between lines and segments the printer `Rests`: it is as the preamble left it,
apart from its alignment and its code table.
-/

namespace ReceiptPrinter

open Layout

namespace Charset

def plane : Charset → CodePlane
  | .gbk => .chinese 1
  | .windows1252 => .table 16

/-- The bytes of `c` in the code page itself. -/
def code (charset : Charset) (c : Char) : List UInt8 :=
  if Text.isControl c then [0x20]
  else if Text.isAscii c then [UInt8.ofNat c.toNat]
  else (charset.encode? c).getD [0x3F]

def mark (charset : Charset) (g : Glyph) : Mark :=
  if g.char = '€' ∧ charset = .gbk then ⟨.table 19, [0xD5], g.style⟩
  else ⟨charset.plane, charset.code g.char, g.style⟩

/-- Whether `p` is in the mode that the preamble selects. The code table does not matter in Chinese
mode. -/
def InForce (charset : Charset) (p : Printer) : Prop :=
  match charset with
  | .gbk => p.chinese = true ∧ p.chineseCode = 1
  | .windows1252 => p.chinese = false ∧ p.table = 16

/-- Whether `p` is ready for a line: default style, the right code page, nothing waiting. -/
structure Rests (charset : Charset) (p : Printer) : Prop where
  style : p.style = {}
  inForce : charset.InForce p
  lead : p.lead = none
  buffer : p.buffer = []

theorem InForce.plane {charset : Charset} {p : Printer} (h : charset.InForce p) :
    p.plane = charset.plane := by
  cases charset with
  | gbk => rw [Printer.plane, if_pos h.1, h.2, Charset.plane]
  | windows1252 => simp [Printer.plane, h.1, h.2, Charset.plane]

theorem InForce.chinese_of_ne {charset : Charset} {p : Printer} (h : charset.InForce p)
    (hne : charset ≠ .gbk) : p.chinese = false := by
  cases charset with
  | gbk => exact absurd rfl hne
  | windows1252 => exact h.1

theorem InForce.congr {charset : Charset} {p p' : Printer} (h : charset.InForce p)
    (hchinese : p'.chinese = p.chinese) (hcode : p'.chineseCode = p.chineseCode)
    (htable : p'.table = p.table) : charset.InForce p' := by
  cases charset with
  | gbk => exact ⟨hchinese.trans h.1, hcode.trans h.2⟩
  | windows1252 => exact ⟨hchinese.trans h.1, htable.trans h.2⟩

/-- `Rests` does not depend on alignment, paper and the settings of blocks. -/
theorem Rests.congr {charset : Charset} {p p' : Printer} (h : charset.Rests p)
    (hstyle : p'.style = p.style) (hchinese : p'.chinese = p.chinese)
    (hcode : p'.chineseCode = p.chineseCode) (htable : p'.table = p.table)
    (hlead : p'.lead = p.lead) (hbuffer : p'.buffer = p.buffer) : charset.Rests p' :=
  ⟨hstyle.trans h.style, h.inForce.congr hchinese hcode htable, hlead.trans h.lead,
    hbuffer.trans h.buffer⟩

/-- A reset and the preamble bring any printer to rest. -/
theorem rests_reset (charset : Charset) (before : Printer) :
    charset.Rests (before.run (.reset :: charset.preamble)) := by
  cases charset with
  | gbk => exact ⟨rfl, ⟨rfl, rfl⟩, rfl, rfl⟩
  | windows1252 => exact ⟨rfl, ⟨rfl, rfl⟩, rfl, rfl⟩

/-! ### Characters -/

/-- How `c` is sent: as the byte or the two bytes of its code, or, if it is the euro sign in GBK,
through another code table. -/
inductive Sent (charset : Charset) (c : Char) : List Command → Prop
  | single {b : UInt8} (hne : ¬(c = '€' ∧ charset = .gbk)) (hcode : charset.code c = [b])
    (hb : Command.isPrinted b = true) (hsingle : charset ≠ .gbk ∨ Printer.isLead b = false) :
    Sent charset c [.print b]
  | pair {lead trail : UInt8} (hne : c ≠ '€') (hgbk : charset = .gbk)
    (hcode : charset.code c = [lead, trail]) (hlead : Printer.isLead lead = true) :
    Sent charset c [.print lead, .print trail]
  | euro (hc : c = '€') (hgbk : charset = .gbk) : Sent charset c Charset.euro

theorem sent_of_encode? {charset : Charset} {c : Char} {bytes : List UInt8}
    (hne : ¬(c = '€' ∧ charset = .gbk)) (hcode : charset.code c = bytes)
    (h : charset.encode? c = some bytes) : Sent charset c (bytes.map .print) := by
  cases charset with
  | gbk =>
    have hchar : c ≠ '€' := fun heq => hne ⟨heq, rfl⟩
    rw [encode?, if_neg hchar] at h
    obtain ⟨lead, trail, rfl, hlow, hhigh, -⟩ := Gbk.encode?_eq_some h
    exact .pair hchar rfl hcode (Printer.isLead_ofNat hlow hhigh)
  | windows1252 =>
    obtain ⟨b, hb, rfl⟩ := Option.map_eq_some_iff.1 h
    obtain ⟨n, rfl, hlow, hhigh⟩ := Windows1252.encode?_eq_some hb
    exact .single hne hcode (Command.framed_print (by omega) hhigh (by omega)) (.inl (by decide))

theorem sent_charCommands (charset : Charset) (c : Char) :
    Sent charset c (charset.charCommands c) := by
  unfold charCommands
  by_cases hcontrol : Text.isControl c
  · have hne : ¬(c = '€' ∧ charset = .gbk) := by
      rintro ⟨rfl, -⟩
      cases hcontrol
    rw [if_pos hcontrol]
    exact .single hne (if_pos hcontrol) rfl (.inr rfl)
  rw [if_neg hcontrol]
  by_cases hascii : Text.isAscii c
  · have hne : ¬(c = '€' ∧ charset = .gbk) := by
      rintro ⟨rfl, -⟩
      cases hascii
    have hcode : charset.code c = [UInt8.ofNat c.toNat] := by
      rw [code, if_neg hcontrol, if_pos hascii]
    have hlt : c.toNat < 0x80 := of_decide_eq_true hascii
    simp only [Text.isControl, Bool.or_eq_true, Bool.and_eq_true, decide_eq_true_eq] at hcontrol
    rw [if_pos hascii]
    exact .single hne hcode (Command.framed_print (by omega) (by omega) (by omega))
      (.inr (Printer.isLead_ofNat_of_lt (by omega)))
  rw [if_neg hascii]
  by_cases heuro : c = '€' ∧ charset = .gbk
  · rw [if_pos heuro]
    exact .euro heuro.1 heuro.2
  have hcode : charset.code c = (charset.encode? c).getD [0x3F] := by
    rw [code, if_neg hcontrol, if_neg hascii]
  rw [if_neg heuro]
  cases hbytes : charset.encode? c with
  | some bytes =>
    rw [hbytes, Option.getD_some] at hcode
    exact sent_of_encode? heuro hcode hbytes
  | none =>
    rw [hbytes, Option.getD_none] at hcode
    exact .single heuro hcode rfl (.inr rfl)

end Charset

/-- Whether a command prints a character or changes the code page. -/
def Command.setsType : Command → Bool
  | .print _ | .reset | .enterChinese | .leaveChinese | .chineseCode _ | .codeTable _ => true
  | _ => false

/-- Commands that type characters one by one: each character is printed by its own commands, which
leave its mark in the buffer, in its own style, and the code page in force before them and after
them; no other command prints a character or changes the code page. -/
inductive Types (charset : Charset) : Printer → List Command → List Glyph → Prop
  | nil (p : Printer) : Types charset p [] []
  | command {p : Printer} {c : Command} {cs : List Command} {gs : List Glyph}
    (hc : c.setsType = false) (hrest : Types charset (p.step c) cs gs) :
    Types charset p (c :: cs) gs
  | glyph {p : Printer} {g : Glyph} {cs : List Command} {gs : List Glyph}
    (hstyle : p.style = g.style) (hbefore : charset.InForce p)
    (hmark : (p.run (charset.charCommands g.char)).buffer = p.buffer ++ [charset.mark g])
    (hafter : charset.InForce (p.run (charset.charCommands g.char)))
    (hrest : Types charset (p.run (charset.charCommands g.char)) cs gs) :
    Types charset p (charset.charCommands g.char ++ cs) (g :: gs)

theorem Types.append {charset : Charset} {p : Printer} {cs cs' : List Command}
    {gs gs' : List Glyph} (h : Types charset p cs gs) (h' : Types charset (p.run cs) cs' gs') :
    Types charset p (cs ++ cs') (gs ++ gs') := by
  induction h with
  | nil p => exact h'
  | command hc _ ih => exact .command hc (ih h')
  | glyph hstyle hbefore hmark hafter _ ih =>
    rw [Printer.run_append] at h'
    rw [List.append_assoc]
    exact .glyph hstyle hbefore hmark hafter (ih h')

theorem Types.silent {charset : Charset} {cs : List Command} (h : cs.any Command.setsType = false)
    (p : Printer) : Types charset p cs [] := by
  induction cs generalizing p with
  | nil => exact .nil p
  | cons c cs ih =>
    rw [List.any_cons, Bool.or_eq_false_iff] at h
    exact .command h.1 (ih h.2 (p.step c))

/-! ### Within a line -/

/-- Commands on the way through a line: they type `gs` and end in `style`. -/
structure Typing (charset : Charset) (p : Printer) (cs : List Command) (gs : List Glyph)
    (style : TextStyle) : Prop where
  types : Types charset p cs gs
  buffer : (p.run cs).buffer = p.buffer ++ gs.map charset.mark
  align : (p.run cs).align = p.align
  paper : (p.run cs).paper = p.paper
  inForce : charset.InForce (p.run cs)
  lead : (p.run cs).lead = none
  style : (p.run cs).style = style

theorem Typing.append {charset : Charset} {p : Printer} {cs cs' : List Command}
    {gs gs' : List Glyph} {style style' : TextStyle} (h : Typing charset p cs gs style)
    (h' : Typing charset (p.run cs) cs' gs' style') :
    Typing charset p (cs ++ cs') (gs ++ gs') style' := by
  obtain ⟨types, buffer, align, paper, inForce, lead, hstyle⟩ := h'
  rw [← Printer.run_append] at buffer align paper inForce lead hstyle
  exact ⟨h.types.append types,
    by rw [buffer, h.buffer, List.append_assoc, List.map_append],
    align.trans h.align, paper.trans h.paper, inForce, lead, hstyle⟩

section
variable {charset : Charset} {p : Printer}

/-- In Chinese mode a lead byte and a trail byte leave one mark. -/
theorem run_print_pair {lead trail : UInt8} (hchinese : p.chinese = true) (hlead : p.lead = none)
    (h : Printer.isLead lead = true) :
    p.run [.print lead, .print trail] = p.write [lead, trail] := by
  have hstep : p.step (.print lead) = { p with lead := some lead } := by
    rw [Printer.step, Printer.printByte, hlead]
    exact if_pos (by rw [hchinese, h]; rfl)
  rw [Printer.run_cons, hstep]
  rfl

theorem step_print (hlead : p.lead = none) {b : UInt8}
    (h : p.chinese = false ∨ Printer.isLead b = false) : p.step (.print b) = p.write [b] := by
  have hnot : (p.chinese && Printer.isLead b) = false := by
    rcases h with h | h <;> simp [h]
  simp [Printer.step, Printer.printByte, hlead, hnot]

/-- What `p` is after the mark of `c` in its style: the euro sign leaves its table selected. -/
def Charset.typed (charset : Charset) (p : Printer) (c : Char) : Printer :=
  { p with
    buffer := p.buffer ++ [charset.mark ⟨c, p.style⟩]
    table := if c = '€' ∧ charset = .gbk then 19 else p.table }

theorem write_eq_typed (hpage : charset.InForce p) (hlead : p.lead = none) {c : Char}
    (hne : ¬(c = '€' ∧ charset = .gbk)) : p.write (charset.code c) = charset.typed p c := by
  rw [Printer.write, Charset.typed, Charset.mark, if_neg hne, if_neg hne, hpage.plane, hlead]

theorem run_euro (hpage : Charset.gbk.InForce p) (hlead : p.lead = none) :
    p.run Charset.euro = Charset.gbk.typed p '€' := by
  rcases p with ⟨align, style, chinese, chineseCode, table, height, module, text, qrModule, qrData,
    lead, buffer, paper⟩
  cases hpage.1
  cases hlead
  rfl

/-- `charCommands` leave the mark of `c`. -/
theorem run_charCommands (hpage : charset.InForce p) (hlead : p.lead = none) (c : Char) :
    p.run (charset.charCommands c) = charset.typed p c := by
  have hsent := charset.sent_charCommands c
  generalize charset.charCommands c = cs at hsent ⊢
  cases hsent with
  | single hne hcode hb hsingle =>
    have hbyte := hsingle.imp_left hpage.chinese_of_ne
    rw [← write_eq_typed hpage hlead hne, hcode]
    exact step_print hlead hbyte
  | pair hne hgbk hcode hfirst =>
    subst hgbk
    rw [← write_eq_typed hpage hlead fun h => hne h.1, hcode]
    exact run_print_pair hpage.1 hlead hfirst
  | euro hc hgbk =>
    subst hc hgbk
    exact run_euro hpage hlead

theorem inForce_typed (hpage : charset.InForce p) (c : Char) :
    charset.InForce (charset.typed p c) := by
  cases charset with
  | gbk => exact hpage
  | windows1252 => exact ⟨hpage.1, (if_neg (by simp)).trans hpage.2⟩

theorem typing_char (hpage : charset.InForce p) (hlead : p.lead = none) (c : Char) :
    Typing charset p (charset.charCommands c) [⟨c, p.style⟩] p.style := by
  have hrun := run_charCommands hpage hlead c
  have hafter := inForce_typed hpage c
  refine ⟨?_, ?_, ?_, ?_, ?_, ?_, ?_⟩
  · rw [← List.append_nil (charset.charCommands c)]
    exact Types.glyph (g := ⟨c, p.style⟩) rfl hpage (congrArg Printer.buffer hrun)
      (hrun ▸ hafter) (.nil _)
  all_goals rw [hrun]
  · rfl
  · rfl
  · rfl
  · exact hafter
  · exact hlead
  · rfl

theorem typing_nil (hpage : charset.InForce p) (hlead : p.lead = none) :
    Typing charset p [] [] p.style :=
  ⟨.nil p, (List.append_nil _).symm, rfl, rfl, hpage, hlead, rfl⟩

theorem typing_textCommands (hpage : charset.InForce p) (hlead : p.lead = none) (s : Text) :
    Typing charset p (charset.textCommands s) (s.map fun c => ⟨c, p.style⟩) p.style := by
  induction s generalizing p with
  | nil => exact typing_nil hpage hlead
  | cons c s ih =>
    have hchar := typing_char hpage hlead c
    have hrest := ih hchar.inForce hchar.lead
    rw [hchar.style] at hrest
    exact hchar.append hrest

/-- `changeStyle` sends what differs, and so comes to the wanted style. -/
theorem run_changeStyle (p : Printer) (wanted : TextStyle) :
    p.run (changeStyle p.style wanted) = { p with style := wanted } := by
  rcases p with ⟨align, ⟨bold, underline, size⟩, chinese, chineseCode, table, height, module, text,
    qrModule, qrData, lead, buffer, paper⟩
  rcases wanted with ⟨bold', underline', size'⟩
  rw [changeStyle]
  split <;> split <;> split <;> simp_all [Printer.step]

theorem any_setsType_changeStyle (current wanted : TextStyle) :
    (changeStyle current wanted).any Command.setsType = false := by
  rw [changeStyle, List.any_append, List.any_append, Bool.or_eq_false_iff, Bool.or_eq_false_iff]
  refine ⟨⟨?_, ?_⟩, ?_⟩ <;> split <;> rfl

theorem typing_changeStyle (hpage : charset.InForce p) (hlead : p.lead = none)
    (wanted : TextStyle) : Typing charset p (changeStyle p.style wanted) [] wanted := by
  have hrun := run_changeStyle p wanted
  refine ⟨.silent (any_setsType_changeStyle _ _) p, ?_, ?_, ?_, ?_, ?_, ?_⟩
  all_goals rw [hrun]
  · exact (List.append_nil _).symm
  · exact hpage.congr rfl rfl rfl
  · exact hlead

def Layout.Piece.glyphs (piece : Piece) : List Glyph := piece.text.map fun c => ⟨c, piece.style⟩

theorem typing_pieceCommands (hpage : charset.InForce p) (hlead : p.lead = none)
    (ps : List Piece) :
    Typing charset p (pieceCommands charset p.style ps) (ps.flatMap Piece.glyphs) {} := by
  induction ps generalizing p with
  | nil => exact typing_changeStyle hpage hlead {}
  | cons piece ps ih =>
    have hstyle := typing_changeStyle hpage hlead piece.style
    have htext := typing_textCommands hstyle.inForce hstyle.lead piece.text
    rw [hstyle.style] at htext
    have hpiece := hstyle.append htext
    have hrest := ih hpiece.inForce hpiece.lead
    rw [hpiece.style] at hrest
    exact hpiece.append hrest

/-! ### Lines -/

/-- Commands that take `p` from rest to rest: they type `gs` and put `imprints` on the paper. -/
structure Printing (charset : Charset) (p : Printer) (cs : List Command) (gs : List Glyph)
    (imprints : List Imprint) : Prop where
  types : Types charset p cs gs
  paper : (p.run cs).paper = p.paper ++ imprints
  marks : imprints.flatMap Imprint.marks = gs.map charset.mark
  rests : charset.Rests (p.run cs)

theorem Printing.append {cs cs' : List Command} {gs gs' : List Glyph}
    {imprints imprints' : List Imprint} (h : Printing charset p cs gs imprints)
    (h' : Printing charset (p.run cs) cs' gs' imprints') :
    Printing charset p (cs ++ cs') (gs ++ gs') (imprints ++ imprints') := by
  obtain ⟨types, paper, marks, rests⟩ := h'
  rw [← Printer.run_append] at paper rests
  exact ⟨h.types.append types, by rw [paper, h.paper, List.append_assoc],
    by rw [List.flatMap_append, h.marks, marks, List.map_append], rests⟩

theorem printing_nil (h : charset.Rests p) : Printing charset p [] [] [] :=
  ⟨.nil p, (List.append_nil _).symm, rfl, h⟩

/-- `pieces` keep the characters in order. -/
theorem flatMap_pieces (gs : List Glyph) : (pieces gs).flatMap Piece.glyphs = gs := by
  induction gs with
  | nil => rfl
  | cons g gs ih =>
    rw [pieces]
    cases hpieces : pieces gs with
    | nil =>
      rw [hpieces] at ih
      rw [← ih]
      rfl
    | cons piece ps =>
      rw [hpieces] at ih
      rw [consGlyph]
      split
      · next hstyle =>
        rw [← ih]
        simp [Piece.glyphs, hstyle]
      · rw [← ih]
        rfl

/-- A line on paper that ends in the default style. -/
def Charset.imprint (charset : Charset) (align : Align) (gs : List Glyph) : Imprint :=
  .line align {} (gs.map charset.mark)

theorem printing_lineCommands (h : charset.Rests p) (line : List Piece) :
    Printing charset p (lineCommands charset line) (line.flatMap Piece.glyphs)
        [charset.imprint p.align (line.flatMap Piece.glyphs)] ∧
      (p.run (lineCommands charset line)).align = p.align := by
  have htyping := typing_pieceCommands h.inForce h.lead line
  rw [h.style] at htyping
  obtain ⟨types, buffer, align, paper, inForce, lead, style⟩ := htyping
  rw [h.buffer, List.nil_append] at buffer
  have hfeed : Types charset (p.run (pieceCommands charset {} line)) [.lineFeed] [] :=
    .silent rfl _
  have htypes := types.append hfeed
  rw [List.append_nil] at htypes
  have hrun : p.run (lineCommands charset line) =
      (p.run (pieceCommands charset {} line)).printLine := Printer.run_append p _ _
  refine ⟨⟨htypes, ?_, ?_, ?_⟩, ?_⟩
  · rw [hrun, Printer.printLine, Printer.put, align, style, buffer, paper, Charset.imprint]
  · exact List.append_nil _
  · rw [hrun]
    exact ⟨style, inForce.congr rfl rfl rfl, lead, rfl⟩
  · rw [hrun]
    exact align

/-- `lineCommands` print their lines under the alignment in force, one imprint each. -/
theorem printing_lines (h : charset.Rests p) (lines : List (List Glyph)) :
    Printing charset p (lines.flatMap fun gs => lineCommands charset (pieces gs)) lines.flatten
      (lines.map (charset.imprint p.align)) := by
  induction lines generalizing p with
  | nil => exact printing_nil h
  | cons gs lines ih =>
    obtain ⟨hline, halign⟩ := printing_lineCommands h (pieces gs)
    rw [flatMap_pieces] at hline
    have hrest := ih hline.rests
    rw [halign] at hrest
    exact hline.append hrest

/-- Commands that set no type print what they leave on the paper. -/
theorem printing_silent {cs : List Command} {imprints : List Imprint}
    (hsilent : cs.any Command.setsType = false) (hpaper : (p.run cs).paper = p.paper ++ imprints)
    (hmarks : imprints.flatMap Imprint.marks = []) (hrests : charset.Rests (p.run cs)) :
    Printing charset p cs [] imprints := ⟨.silent hsilent p, hpaper, hmarks, hrests⟩

/-! ### Segments -/

/-- Segments of commands, each of which takes the printer from rest to rest. -/
inductive Serial (charset : Charset) :
    Printer → List (List Command) → List Glyph → List Imprint → Prop
  | nil {p : Printer} (h : charset.Rests p) : Serial charset p [] [] []
  | cons {p : Printer} {segment : List Command} {segments : List (List Command)}
    {gs gs' : List Glyph} {imprints imprints' : List Imprint}
    (h : Printing charset p segment gs imprints)
    (hrest : Serial charset (p.run segment) segments gs' imprints') :
    Serial charset p (segment :: segments) (gs ++ gs') (imprints ++ imprints')

section
variable {segments segments' : List (List Command)} {gs gs' : List Glyph}
  {imprints imprints' : List Imprint}

theorem Serial.printing (h : Serial charset p segments gs imprints) :
    Printing charset p segments.flatten gs imprints := by
  induction h with
  | nil h => exact printing_nil h
  | cons h _ ih => exact h.append ih

theorem Serial.append (h : Serial charset p segments gs imprints)
    (h' : Serial charset (p.run segments.flatten) segments' gs' imprints') :
    Serial charset p (segments ++ segments') (gs ++ gs') (imprints ++ imprints') := by
  induction h with
  | nil _ => exact h'
  | cons h _ ih =>
    rw [List.flatten_cons, Printer.run_append] at h'
    rw [List.append_assoc, List.append_assoc]
    exact .cons h (ih h')

theorem serial_singleton {segment : List Command} (h : Printing charset p segment gs imprints) :
    Serial charset p [segment] gs imprints := by
  rw [← List.append_nil gs, ← List.append_nil imprints]
  exact .cons h (.nil h.rests)

theorem Serial.merge {first second : List Command}
    (h : Serial charset p (first :: second :: segments) gs imprints) :
    Serial charset p ((first ++ second) :: segments) gs imprints := by
  cases h with
  | cons hfirst h =>
    cases h with
    | cons hsecond hrest =>
      rw [← Printer.run_append] at hrest
      rw [← List.append_assoc, ← List.append_assoc]
      exact .cons (hfirst.append hsecond) hrest

/-- The printer rests after every segment. -/
theorem Serial.rests_take (hp : charset.Rests p) (h : Serial charset p segments gs imprints)
    (k : Nat) : charset.Rests (p.run (segments.take k).flatten) := by
  induction h generalizing k with
  | nil _ =>
    rw [List.take_nil]
    exact hp
  | cons h _ ih =>
    cases k with
    | zero => exact hp
    | succ k =>
      rw [List.take_succ_cons, List.flatten_cons, Printer.run_append]
      exact ih h.rests k

theorem Types.eq_nil (h : Types charset p [] gs) : gs = [] := by
  generalize hcs : ([] : List Command) = cs at h
  cases h with
  | nil => rfl
  | command => cases hcs
  | glyph _ _ hmark _ _ =>
    -- a character without commands would leave no mark
    rw [(List.append_eq_nil_iff.1 hcs.symm).1, Printer.run_nil] at hmark
    simp at hmark

/-- Segments without commands may be dropped. -/
theorem Serial.filter_not_isEmpty (h : Serial charset p segments gs imprints) :
    Serial charset p (segments.filter (!·.isEmpty)) gs imprints := by
  induction h with
  | nil h => exact .nil h
  | @cons p segment segments gs gs' imprints imprints' h hrest ih =>
    cases segment with
    | nil =>
      obtain rfl := h.types.eq_nil
      obtain rfl : imprints = [] := by simpa using h.paper
      exact ih
    | cons c cs => exact .cons h ih

end

end

end ReceiptPrinter

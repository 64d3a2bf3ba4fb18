import ReceiptPrinter.Proofs.CodePage.Gbk
import ReceiptPrinter.Proofs.Printer.Typing

/-!
# Columns of a text

The width of a text is found from the codes of its characters; what the printer does with it, from
the bytes that are sent. `Charset.textWidth` counts the columns that `Printer.advance` finds,
whatever characters a text holds, and only the euro sign in GBK takes bytes that take no column.
-/

namespace ReceiptPrinter

namespace Printer

/-- The columns over which the head moves while it prints bytes at normal size. The two modes and
the code table are chosen without a move; in Chinese mode a lead byte and its trail byte are two
columns, and any other byte is one. -/
def advance (chinese : Bool) : List UInt8 → Nat
  | [] => 0
  | [_] => 1
  | b :: b' :: rest =>
    if b = 0x1C ∧ b' = 0x26 then advance true rest
    else if b = 0x1C ∧ b' = 0x2E then advance false rest
    else if b = 0x1B ∧ b' = 0x74 then
      match rest with
      | [] => 0
      | _ :: rest => advance chinese rest
    else if chinese && isLead b then 2 + advance chinese rest
    else 1 + advance chinese (b' :: rest)

/-- `advance` counts one column for a byte that begins no command and no pair. -/
theorem advance_single {chinese : Bool} {b : UInt8} (hb : Command.isPrinted b = true)
    (h : chinese = false ∨ isLead b = false) (rest : List UInt8) :
    advance chinese (b :: rest) = 1 + advance chinese rest := by
  cases rest with
  | nil => rfl
  | cons b' rest =>
    have hescape : b ≠ 0x1B := by
      rintro rfl
      cases hb
    have hfile : b ≠ 0x1C := by
      rintro rfl
      cases hb
    have hpair : (chinese && isLead b) = false := by rcases h with h | h <;> simp [h]
    rw [advance.eq_def]
    simp only [hescape, hfile, hpair, false_and, if_false, Bool.false_eq_true]

theorem advance_pair {lead : UInt8} (h : isLead lead = true) (trail : UInt8) (rest : List UInt8) :
    advance true (lead :: trail :: rest) = 2 + advance true rest := by
  have hescape : lead ≠ 0x1B := by
    rintro rfl
    cases h
  have hfile : lead ≠ 0x1C := by
    rintro rfl
    cases h
  rw [advance.eq_def]
  simp only [hescape, hfile, h, false_and, if_false, Bool.and_self, if_true]

theorem advance_enterChinese (chinese : Bool) (rest : List UInt8) :
    advance chinese (0x1C :: 0x26 :: rest) = advance true rest := by
  rw [advance.eq_def]
  rfl

theorem advance_leaveChinese (chinese : Bool) (rest : List UInt8) :
    advance chinese (0x1C :: 0x2E :: rest) = advance false rest := by
  rw [advance.eq_def]
  rfl

theorem advance_codeTable (chinese : Bool) (n : UInt8) (rest : List UInt8) :
    advance chinese (0x1B :: 0x74 :: n :: rest) = advance chinese rest := by
  rw [advance.eq_def]
  rfl

theorem advance_euro (rest : List UInt8) :
    advance true (Command.stream Charset.euro ++ rest) = 1 + advance true rest := by
  show advance true (0x1C :: 0x2E :: 0x1B :: 0x74 :: 0x13 :: 0xD5 :: 0x1C :: 0x26 :: rest) = _
  rw [advance_leaveChinese, advance_codeTable,
    advance_single rfl (.inl rfl), advance_enterChinese]

example : advance true
    [0xD6, 0xD0, 0x41, 0x1C, 0x2E, 0x1B, 0x74, 0x13, 0xD5, 0x1C, 0x26] = 4 := by decide

end Printer

namespace Charset

/-! ### Columns counted -/

theorem charWidth_of_isAscii (charset : Charset) {c : Char} (h : Text.isAscii c) :
    charset.charWidth c = 1 := if_pos h

/-- Past ASCII `charWidth` is the length of the code, or one where there is none. -/
theorem charWidth_of_not_isAscii (charset : Charset) {c : Char} (h : ¬Text.isAscii c) :
    charset.charWidth c = ((charset.encode? c).map List.length).getD 1 := by
  rw [Charset.charWidth.eq_def, if_neg h]
  cases charset with
  | gbk => rfl
  | windows1252 =>
    rw [Charset.encode?, Option.map_map]
    cases Windows1252.encode? c <;> rfl

theorem charWidth_of_isControl (charset : Charset) {c : Char} (h : Text.isControl c) :
    charset.charWidth c = 1 := by
  by_cases hascii : Text.isAscii c
  · exact charWidth_of_isAscii charset hascii
  · cases charset with
    | windows1252 => exact if_neg hascii
    | gbk =>
      simp only [Text.isControl, Bool.or_eq_true, Bool.and_eq_true, decide_eq_true_eq] at h
      have hnone : Charset.gbk.encode? c = none := by
        rw [Charset.encode?, if_neg, Gbk.encode?_eq_none (by omega)]
        rintro rfl
        revert h
        decide
      rw [charWidth_of_not_isAscii _ hascii, hnone]
      rfl

theorem length_encode? {charset : Charset} {c : Char} {bytes : List UInt8}
    (h : charset.encode? c = some bytes) : 1 ≤ bytes.length ∧ bytes.length ≤ 2 := by
  unfold Charset.encode? at h
  split at h
  · split at h
    · cases h
      decide
    · obtain ⟨lead, trail, rfl, -⟩ := Gbk.encode?_eq_some h
      exact ⟨Nat.le_succ 1, Nat.le_refl 2⟩
  · obtain ⟨b, -, rfl⟩ := Option.map_eq_some_iff.1 h
    exact ⟨Nat.le_refl 1, Nat.le_succ 1⟩

theorem charWidth_bounds (charset : Charset) (c : Char) :
    1 ≤ charset.charWidth c ∧ charset.charWidth c ≤ 2 := by
  by_cases hascii : Text.isAscii c
  · rw [charWidth_of_isAscii charset hascii]
    decide
  · rw [charWidth_of_not_isAscii charset hascii]
    cases hcode : charset.encode? c with
    | none => decide
    | some bytes => exact length_encode? hcode

theorem length_code (charset : Charset) (c : Char) :
    (charset.code c).length = charset.charWidth c := by
  unfold code
  split
  · next hcontrol => exact (charWidth_of_isControl charset hcontrol).symm
  · split
    · next hascii => exact (charWidth_of_isAscii charset hascii).symm
    · next hascii =>
      rw [charWidth_of_not_isAscii charset hascii]
      cases charset.encode? c <;> rfl

/-! ### Columns printed -/

/-- A `Sent` character moves the head by its `charWidth`, whatever follows it. -/
theorem Sent.advance {charset : Charset} {c : Char} {cs : List Command} (h : Sent charset c cs)
    (rest : List UInt8) :
    Printer.advance (charset = .gbk) (Command.stream cs ++ rest) =
      charset.charWidth c + Printer.advance (charset = .gbk) rest := by
  rw [← length_code]
  cases h with
  | single hne hcode hb hsingle =>
    have hbyte := hsingle.imp_left (decide_eq_false (p := charset = .gbk))
    rw [hcode]
    exact Printer.advance_single hb hbyte rest
  | pair hne hgbk hcode hlead =>
    rw [hcode, decide_eq_true hgbk]
    exact Printer.advance_pair hlead _ rest
  | euro hc hgbk =>
    subst hc hgbk
    exact Printer.advance_euro rest

/-- Only the euro sign takes bytes that take no column: seven of them. -/
theorem Sent.length {charset : Charset} {c : Char} {cs : List Command} (h : Sent charset c cs) :
    (Command.stream cs).length =
      charset.charWidth c + if c = '€' ∧ charset = .gbk then 7 else 0 := by
  rw [← length_code]
  cases h with
  | single hne hcode hb hsingle =>
    rw [hcode, if_neg hne]
    rfl
  | pair hne hgbk hcode hlead =>
    rw [hcode, if_neg fun h => hne h.1]
    rfl
  | euro hc hgbk =>
    subst hc hgbk
    rfl

theorem encodeText_cons (charset : Charset) (c : Char) (s : Text) :
    charset.encodeText (c :: s) =
      Command.stream (charset.charCommands c) ++ charset.encodeText s := by
  rw [encodeText, textCommands, List.flatMap_cons, Command.stream, List.flatMap_append]
  rfl

theorem advance_encodeText (charset : Charset) (s : Text) :
    Printer.advance (charset = .gbk) (charset.encodeText s) = charset.textWidth s := by
  induction s with
  | nil => rfl
  | cons c s ih =>
    rw [encodeText_cons, (sent_charCommands charset c).advance, ih, textWidth_cons]

theorem length_encodeText (charset : Charset) (s : Text) :
    (charset.encodeText s).length =
      charset.textWidth s + if charset = .gbk then 7 * s.count '€' else 0 := by
  induction s with
  | nil => cases charset <;> rfl
  | cons c s ih =>
    rw [encodeText_cons, List.length_append, (sent_charCommands charset c).length, ih,
      textWidth_cons, List.count_cons]
    cases charset with
    | gbk => by_cases heuro : c = '€' <;> simp [heuro] <;> omega
    | windows1252 => simp

theorem textWidth_windows1252 (s : Text) : windows1252.textWidth s = s.length := by
  induction s with
  | nil => rfl
  | cons c s ih =>
    have hwidth : windows1252.charWidth c = 1 := by
      unfold charWidth
      split <;> rfl
    rw [textWidth_cons, hwidth, ih, List.length_cons, Nat.add_comm]

/-! ### Columns on paper -/

theorem columns_mark (charset : Charset) (g : Layout.Glyph) :
    (charset.mark g).columns = g.width charset := by
  unfold mark
  split
  · next heuro =>
    obtain ⟨hchar, rfl⟩ := heuro
    rw [Layout.Glyph.width, hchar]
    rfl
  · rw [Mark.columns, length_code, Layout.Glyph.width]

theorem columns_marks (charset : Charset) (gs : List Layout.Glyph) :
    ((gs.map charset.mark).map Mark.columns).sum = Layout.width charset gs := by
  rw [List.map_map, Layout.width]
  exact congrArg List.sum (List.map_congr_left fun g _ => columns_mark charset g)

theorem width_map_style (charset : Charset) (style : TextStyle) (s : Text) :
    Layout.width charset (s.map fun c => ⟨c, style⟩) =
      charset.textWidth s * style.size.widthScale := by
  induction s with
  | nil => exact (Nat.zero_mul _).symm
  | cons c s ih =>
    rw [textWidth_cons, Nat.add_mul, ← ih]
    rfl

/-- `encodeText s` puts marks on the line that take `textWidth s` columns, at the size that is set.
-/
theorem exists_interpret?_encodeText {charset : Charset} {p : Printer}
    (hpage : charset.InForce p) (hlead : p.lead = none) (s : Text) :
    ∃ p' marks, p.interpret? (charset.encodeText s) = some p' ∧ p'.buffer = p.buffer ++ marks ∧
      (marks.map Mark.columns).sum = charset.textWidth s * p.style.size.widthScale := by
  have htyping := typing_textCommands hpage hlead s
  have hread : Command.readAll? (charset.encodeText s) = some (charset.textCommands s) :=
    Command.readAll?_stream (allFramed_textCommands charset s)
  refine ⟨_, _, ?_, htyping.buffer, ?_⟩
  · rw [Printer.interpret?, hread, Option.map_some]
  · rw [columns_marks, width_map_style]

/-- `textWidth s` is the `advance` of the printer over the bytes of `s`, and the columns of the
marks on the line, whatever the printer was before its reset. So the bytes are as many as the
columns, and seven more for each euro sign in GBK; in Windows-1252 both are as many as the
characters. -/
theorem columns_encodeText :
    (∀ (charset : Charset) (s : Text),
      Printer.advance (charset = .gbk) (charset.encodeText s) = charset.textWidth s ∧
      ∀ before : Printer, ∃ p,
        (before.run (.reset :: charset.preamble)).interpret? (charset.encodeText s) = some p ∧
        (p.buffer.map Mark.columns).sum = charset.textWidth s) ∧
    (∀ s : Text, (gbk.encodeText s).length = gbk.textWidth s + 7 * s.count '€') ∧
    ∀ s : Text, (windows1252.encodeText s).length = s.length ∧
      windows1252.textWidth s = s.length := by
  refine ⟨?_, length_encodeText .gbk, ?_⟩
  · intro charset s
    refine ⟨advance_encodeText charset s, fun before => ?_⟩
    have hrests := charset.rests_reset before
    obtain ⟨p, marks, hread, hmarks, hsum⟩ :=
      exists_interpret?_encodeText hrests.inForce hrests.lead s
    rw [hrests.buffer, List.nil_append] at hmarks
    rw [hrests.style] at hsum
    exact ⟨p, hread, by rw [hmarks, hsum]; exact Nat.mul_one _⟩
  · intro s
    have hlength := length_encodeText .windows1252 s
    rw [textWidth_windows1252] at hlength
    exact ⟨hlength, textWidth_windows1252 s⟩

end Charset

end ReceiptPrinter

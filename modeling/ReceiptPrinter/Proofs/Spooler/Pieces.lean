import Mathlib.Data.List.Forall2
import ReceiptPrinter.Proofs.Markup.Concatenation
import ReceiptPrinter.Proofs.Markup.Expressible
import ReceiptPrinter.Proofs.Spooler.Buffer

/-!
# Markup put together from pieces

Calls put markup together from pieces: text, pictures, barcodes, QR codes and blank lines. The
markup of a buffer reads as what the pieces `held` in it mean (`Piece.Means`), in order, with
neighbouring feeds joined; so no piece changes what another one means. A direct print is such a
buffer.
-/

namespace ReceiptPrinter

open Markup

namespace Markup.Buffer

/-- What one call adds to a buffer. -/
inductive Piece where
  | text (markup : Text)
  | picture (bitmap : Bitmap)
  | barcode (code : Barcode)
  | qrCode (content : Text) (moduleSize : UInt8)
  | feed (lines : Nat)

def add (b : Buffer) : Piece → Buffer
  | .text markup => b.text markup
  | .picture bitmap => b.picture bitmap
  | .barcode code => b.barcode code
  | .qrCode content moduleSize => b.qrCode content moduleSize
  | .feed lines => b.feed lines

/-- A change of a buffer: a piece is added, or all of it is taken. -/
inductive Change where
  | add (piece : Piece)
  | take

def change (b : Buffer) : Change → Buffer
  | .add piece => b.add piece
  | .take => .empty

/-- The pieces in a buffer after changes, if it held `pieces` before. -/
def held (pieces : List Piece) : List Change → List Piece
  | [] => pieces
  | .add piece :: changes => held (pieces ++ [piece]) changes
  | .take :: changes => held [] changes

/-- The lines that a piece adds. -/
def Piece.lines : Piece → List Text
  | .text markup => textLines markup
  | .picture bitmap => [printPicture { bitmap }]
  | .barcode code => [printBarcode code]
  | .qrCode content moduleSize => [printQrCode { content, moduleSize }]
  | .feed lines => List.replicate lines (alignTag .left)

/-- What a piece means. A text must not have lines that end in two carriage returns, since two line
endings would be taken from them. -/
inductive Piece.Means : Piece → List Element → Prop
  | text {markup : Text} {es : List Element} (hparse : parse markup = .ok es)
    (hreturns : ∀ line ∈ Text.splitOn '\n' markup, ¬['\r', '\r'] <:+ line) :
    Means (.text markup) es
  | picture (bitmap : Bitmap) : Means (.picture bitmap) [.picture { bitmap, align := .center }]
  | barcode {b : Barcode} (htrim : Text.trim b.content = b.content) (hline : '\n' ∉ b.content)
    (hclosing : ¬HasClosing BlockKind.barcode.closing b.content)
    (hheight : b.height.isFinitePositive = true)
    (hwidth : ∀ w ∈ b.width, w.isFinitePositive = true) : Means (.barcode b) [.barcode b]
  | qrCode {content : Text} {moduleSize : UInt8}
    (hcheck : Spooler.checkQrContent content = .ok ()) (hsize : 1 ≤ moduleSize) :
    Means (.qrCode content moduleSize) [.qrCode { content, moduleSize, align := .center }]
  | feed (lines : Nat) : Means (.feed lines) (if lines = 0 then [] else [.feed lines])

theorem add_lines (b : Buffer) (piece : Piece) : (b.add piece).lines = b.lines ++ piece.lines := by
  cases piece <;> rfl

/-- A buffer that was empty or taken has the lines of the pieces `held` since. -/
theorem foldl_change_lines {b : Buffer} {pieces : List Piece} (changes : List Change)
    (h : b.lines = pieces.flatMap Piece.lines) :
    (changes.foldl change b).lines = (held pieces changes).flatMap Piece.lines := by
  induction changes generalizing b pieces with
  | nil => exact h
  | cons c changes ih =>
    cases c with
    | add piece =>
      refine ih ?_
      rw [change, add_lines, h, List.flatMap_append, List.flatMap_singleton]
    | take => exact ih rfl

/-! ### Pieces one by one -/

theorem getLast?_chomp_ne {line : Text} (h : ¬['\r', '\r'] <:+ line) :
    (Text.chomp line).getLast? ≠ some '\r' := by
  unfold Text.chomp
  split
  · next hlast =>
    obtain ⟨s, rfl⟩ := List.getLast?_eq_some_iff.1 hlast
    rw [List.dropLast_concat]
    intro hagain
    obtain ⟨t, rfl⟩ := List.getLast?_eq_some_iff.1 hagain
    exact h ⟨t, by simp⟩
  · assumption

/-- The lines of a text keep their ends when they are read again. -/
theorem standFor_text {markup : Text} {es : List Element} (hparse : parse markup = .ok es)
    (hreturns : ∀ line ∈ Text.splitOn '\n' markup, ¬['\r', '\r'] <:+ line) :
    StandFor (textLines markup) es := by
  obtain ⟨read, hread, rfl⟩ := map_eq_ok_iff.1 hparse
  have hone : ∀ line ∈ splitLines markup, '\n' ∉ line := fun _ => not_mem_of_mem_splitLines
  have hends : ∀ line ∈ splitLines markup, line.getLast? ≠ some '\r' :=
    List.forall_mem_map.2 fun line hline => getLast?_chomp_ne (hreturns line hline)
  unfold textLines
  split
  · next hsplit => exact absurd hsplit (splitLines_ne_nil markup)
  · next first rest hsplit =>
    rw [hsplit] at hread
    rw [hsplit, List.forall_mem_cons] at hone hends
    have hfirst : (alignTag .left ++ first).getLast? ≠ some '\r' := by
      rw [List.getLast?_append]
      cases hlast : first.getLast? with
      | none => decide
      | some c => simpa [hlast] using hends.1
    have hchomp : rest.map Text.chomp = rest :=
      (List.map_congr_left fun line hline =>
        Text.chomp_of_getLast? (hends.2 line hline)).trans (List.map_id' rest)
    refine ⟨?_, read, fun a => ?_, (mergeFeeds_mergeFeeds read).symm⟩
    · rw [List.forall_mem_cons, List.mem_append, not_or]
      exact ⟨⟨not_mem_alignTag .left, hone.1⟩, hone.2⟩
    · obtain ⟨r, hline, hrest⟩ := bind_eq_ok_iff.1 hread
      rw [List.map_cons, hchomp, Text.chomp_of_getLast? hfirst, parseLines,
        parseLine_alignTag_append hline a, ok_bind]
      exact hrest

theorem standFor_feed (n : Nat) :
    StandFor (List.replicate n (alignTag .left)) (if n = 0 then [] else [.feed n]) := by
  refine ⟨fun line hline => ?_, List.replicate n (.feed 1), fun a => ?_, ?_⟩
  · rw [List.eq_of_mem_replicate hline]
    exact not_mem_alignTag .left
  · have hline : ∀ a, parseLine a (alignTag .left) = .ok (.left, [.feed 1]) := fun a => by
      rw [← List.append_nil (alignTag .left)]
      exact parseLine_alignTag_append (by rw [parseLine, tokens]; rfl) a
    have hchomp : Text.chomp (alignTag .left) = alignTag .left := rfl
    rw [List.map_replicate, hchomp]
    induction n generalizing a with
    | zero => rfl
    | succ n ih =>
      rw [List.replicate_succ, parseLines, hline, ok_bind]
      simp only [ih, ok_bind]
      rfl
  · rw [mergeFeeds_replicate_feed]
    split <;> rfl

theorem standFor_of_means {piece : Piece} {es : List Element} (h : piece.Means es) :
    StandFor piece.lines es := by
  cases h with
  | text hparse hreturns => exact standFor_text hparse hreturns
  | picture bitmap =>
    have hcontent : '\n' ∉ bitmap.toHex := fun hmem =>
      absurd (Hex.isHexDigit_of_mem_encode hmem) (by decide)
    have hnone : ∀ a ∈ ([] : List Attribute), a.Writable := by simp
    have hline := block_line .center .picture hnone hcontent
    exact standFor_line hline.1 hline.2 (parseLine_printPicture { bitmap })
  | @barcode b htrim hone hclosing hheight hwidth =>
    have hline := block_line b.align .barcode (writable_barcodeAttributes b) hone
    rw [← printBarcode_eq] at hline
    exact standFor_line hline.1 hline.2
      (parseLine_printBarcode ⟨htrim, hclosing, hheight, hwidth⟩)
  | @qrCode content moduleSize hcheck hsize =>
    obtain ⟨hone, hclosing⟩ := Spooler.checkQrContent_eq_ok hcheck
    have hline := block_line .center .qrCode
      (writable_qrCodeAttributes { content, moduleSize }) hone
    rw [← printQrCode_eq { content, moduleSize }] at hline
    have hsound : (Element.qrCode { content, moduleSize }).Sound :=
      ⟨Element.one_le_iff_pos.1 hsize, hclosing⟩
    exact standFor_line hline.1 hline.2 (parseLine_printQrCode hsound)
  | feed n => exact standFor_feed n

theorem standFor_pieces {pieces : List Piece} {lists : List (List Element)}
    (h : List.Forall₂ Piece.Means pieces lists) :
    StandFor (pieces.flatMap Piece.lines) lists.flatten := by
  induction h with
  | nil => exact standFor_nil
  | cons hpiece _ ih =>
    rw [List.flatMap_cons, List.flatten_cons]
    exact (standFor_of_means hpiece).append ih

/-! ### Buffers -/

/-- The markup of a buffer parses as what the pieces `held` in it mean, one after the other. -/
theorem parse_markup_of_means {changes : List Change} {lists : List (List Element)}
    (h : List.Forall₂ Piece.Means (held [] changes) lists)
    (hne : (changes.foldl change empty).lines ≠ []) :
    parse (changes.foldl change empty).markup = .ok (mergeFeeds lists.flatten) := by
  have hlines : (changes.foldl change empty).lines = (held [] changes).flatMap Piece.lines :=
    foldl_change_lines changes rfl
  rw [hlines] at hne
  rw [markup, hlines]
  exact (standFor_pieces h).parse_join hne

/-- The alignment of a text ends with the text, and its last blank lines join the feed after it. -/
theorem parse_markup_mixed :
    (([.add (.text "lost".toList), .take, .add (.text "[C]a\nb\r\n\n".toList), .add (.feed 2),
        .add (.qrCode "x".toList 3), .add (.feed 0),
        .add (.barcode { symbology := .code128, content := "[R]".toList, align := .left }),
        .add (.text "<b>c</b>".toList)] : List Change).foldl change empty).lines ≠ [] ∧
      parse (([.add (.text "lost".toList), .take, .add (.text "[C]a\nb\r\n\n".toList),
        .add (.feed 2), .add (.qrCode "x".toList 3), .add (.feed 0),
        .add (.barcode { symbology := .code128, content := "[R]".toList, align := .left }),
        .add (.text "<b>c</b>".toList)] : List Change).foldl change empty).markup =
      .ok [.text (.line "a".toList .center), .text (.line "b".toList .center), .feed 4,
        .qrCode { content := "x".toList, moduleSize := 3 },
        .barcode { symbology := .code128, content := "[R]".toList, align := .left },
        .text ⟨"c".toList, .left, { bold := true }, true⟩] := by
  have hfirst : parse "[C]a\nb\r\n\n".toList = .ok [.text (.line "a".toList .center),
      .text (.line "b".toList .center), .feed 2] := by decide +kernel
  have hlast : parse "<b>c</b>".toList =
      .ok [.text ⟨"c".toList, .left, { bold := true }, true⟩] := by decide +kernel
  have hclosing : ¬HasClosing BlockKind.barcode.closing "[R]".toList :=
    (splitAtClosing?_eq_none_iff (closing_ne_nil _)).1 (by decide)
  exact ⟨by decide, Eq.trans
    (parse_markup_of_means
      (.cons (.text hfirst (by decide)) <| .cons (.feed 2) <| .cons (.qrCode rfl (by decide)) <|
        .cons (.feed 0) <| .cons
          (.barcode (by decide) (by decide) hclosing isFinitePositive_height (by simp)) <|
        .cons (.text hlast (by decide)) .nil)
      (by decide))
    rfl⟩

end Markup.Buffer

namespace Spooler

open Markup.Buffer

/-! ### Direct prints -/

variable {decode : PictureDecoder} {config : Config}

/-- Whether `es` hold the bitmap of `picture`, unless there is none. -/
def Draws (decode : PictureDecoder) (config : Config) (picture : Option Text)
    (es : List Element) : Prop :=
  ∀ base64, picture = some base64 → base64 ≠ [] →
    ∃ bitmap, readPicture decode config base64 = .ok bitmap ∧ Element.picture { bitmap } ∈ es

theorem draws_empty (es : List Element) : Draws decode config (some []) es :=
  fun _ heq hne => absurd (Option.some.inj heq).symm hne

theorem Draws.mono {picture : Option Text} {es es' : List Element}
    (h : Draws decode config picture es) (hsub : ∀ p, .picture p ∈ es → .picture p ∈ es') :
    Draws decode config picture es' := by
  intro base64 heq hne
  obtain ⟨bitmap, hbitmap, hmem⟩ := h base64 heq hne
  exact ⟨bitmap, hbitmap, hsub _ hmem⟩

theorem addPicture_eq_ok {b b' : Buffer} {picture : Option Text}
    (h : addPicture decode config b picture = .ok b') :
    ∃ lines es, b'.lines = b.lines ++ lines ∧ StandFor lines es ∧ (∀ run, .text run ∉ es) ∧
      Draws decode config picture es := by
  unfold addPicture at h
  split at h
  · cases h
    exact ⟨[], [], (List.append_nil _).symm, standFor_nil, by simp, nofun⟩
  · cases h
    exact ⟨[], [], (List.append_nil _).symm, standFor_nil, by simp, draws_empty []⟩
  · obtain ⟨bitmap, hbitmap, rfl⟩ := map_eq_ok_iff.1 h
    refine ⟨_, _, rfl, standFor_of_means (.picture bitmap), by simp, fun base64 heq _ => ?_⟩
    cases heq
    exact ⟨bitmap, hbitmap, List.mem_singleton_self _⟩

theorem textLines_ne_nil (markup : Text) : Buffer.textLines markup ≠ [] := by
  unfold Buffer.textLines
  split
  · next hsplit => exact absurd hsplit (splitLines_ne_nil markup)
  · exact List.cons_ne_nil _ _

theorem foldl_text_lines (b : Buffer) (texts : List Text) :
    (texts.foldl Buffer.text b).lines = b.lines ++ texts.flatMap Buffer.textLines := by
  induction texts generalizing b with
  | nil => exact (List.append_nil _).symm
  | cons text texts ih =>
    rw [List.foldl_cons, ih, List.flatMap_cons, ← List.append_assoc]
    rfl

theorem exists_lines_of_lastPicture {b : Buffer} {picture : Option Text}
    {markup : Text}
    (h : (match picture with
      | none | some [] => pure b.markup
      | some base64 => do return ((← addPicture decode config b (some base64)).feed 1).markup) =
        .ok markup) :
    ∃ lines es, StandFor lines es ∧ (∀ run, .text run ∉ es) ∧ Draws decode config picture es ∧
      markup = Text.join '\n' (b.lines ++ lines) := by
  split at h
  case h_1 =>
    cases h
    exact ⟨[], [], standFor_nil, by simp, nofun, by rw [List.append_nil, Buffer.markup]⟩
  case h_2 =>
    cases h
    exact ⟨[], [], standFor_nil, by simp, draws_empty [],
      by rw [List.append_nil, Buffer.markup]⟩
  case h_3 =>
    obtain ⟨b', hadd, h⟩ := bind_eq_ok_iff.1 h
    cases h
    obtain ⟨lines, es, hlines, hfor, hes, hdraws⟩ := addPicture_eq_ok hadd
    refine ⟨_, _, hfor.append (standFor_feed 1), by simpa using hes,
      hdraws.mono fun _ => List.mem_append_left _, ?_⟩
    rw [← List.append_assoc, ← hlines]
    rfl

/-- The lines of text of a direct print stand between blocks and feeds. -/
theorem exists_lines_of_directMarkup {request : DirectPrint} {markup : Text}
    (h : directMarkup decode config request = .ok markup) :
    ∃ first es last es', StandFor first es ∧ StandFor last es' ∧ (∀ run, .text run ∉ es ++ es') ∧
      Draws decode config request.logo es ∧ Draws decode config request.picture es' ∧
      markup = Text.join '\n' (first ++ request.lines.flatMap Buffer.textLines ++ last) := by
  obtain ⟨b, hlogo, h⟩ := bind_eq_ok_iff.1 h
  obtain ⟨first, es, hfirst, hfor, hes, hdraws⟩ := addPicture_eq_ok hlogo
  have htexts : (request.lines.foldl Buffer.text b).lines =
      first ++ request.lines.flatMap Buffer.textLines := by
    rw [foldl_text_lines, hfirst]
    rfl
  simp only at h
  split at h
  · rw [ok_bind] at h
    obtain ⟨last, es', hfor', hes', hdraws', rfl⟩ := exists_lines_of_lastPicture h
    exact ⟨first, es, last, es', hfor, hfor', by simp [hes, hes'], hdraws, hdraws',
      by rw [htexts]⟩
  · next content hcontent =>
    obtain ⟨_, hcheck, h⟩ := bind_eq_ok_iff.1 h
    rw [ok_bind] at h
    obtain ⟨last, es', hfor', hes', hdraws', rfl⟩ := exists_lines_of_lastPicture h
    have hcode := (standFor_of_means (.qrCode hcheck (by decide : 1 ≤ directQrSize))).append
      (standFor_feed 1)
    refine ⟨first, es, _, _, hfor, hcode.append hfor', by simp [hes, hes'], hdraws,
      hdraws'.mono fun _ => List.mem_append_right _, ?_⟩
    rw [← htexts, ← List.append_assoc, ← List.append_assoc]
    rfl

/-- Lines that are markup keep their meaning in a direct print. -/
theorem exists_parse_directMarkup {request : DirectPrint} {markup : Text}
    {texts : List (List Element)} (h : directMarkup decode config request = .ok markup)
    (hlines : List.Forall₂ Piece.Means (request.lines.map .text) texts)
    (hne : request.lines ≠ []) :
    ∃ es es', (∀ run, .text run ∉ es ++ es') ∧
      parse markup = .ok (mergeFeeds (es ++ texts.flatten ++ es')) := by
  obtain ⟨first, es, last, es', hfor, hfor', hnone, -, -, rfl⟩ := exists_lines_of_directMarkup h
  have htexts := standFor_pieces hlines
  rw [List.flatMap_map] at htexts
  refine ⟨es, es', hnone, ((hfor.append htexts).append hfor').parse_join fun hnil => ?_⟩
  obtain ⟨line, hline⟩ := List.exists_mem_of_ne_nil _ hne
  have hmiddle := (List.append_eq_nil_iff.1 (List.append_eq_nil_iff.1 hnil).1).2
  exact textLines_ne_nil line (List.flatMap_eq_nil_iff.1 hmiddle line hline)

end Spooler

end ReceiptPrinter

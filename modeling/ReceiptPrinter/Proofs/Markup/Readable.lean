import ReceiptPrinter.Proofs.Markup.Written

/-!
# Lines that can be read

Whether a line can be read does not depend on the alignment that holds before it. Markup can be read
exactly if each of its lines `Reads`, and a line can still be read after it has lost a carriage
return. A printed barcode is `Readable` if its lengths are finite and positive and what stands from
the first closing tag in its content on, if there is one, is a line that can be read.
-/

namespace ReceiptPrinter

namespace Markup

/-! ### Blocks -/

theorem within_eq_ok_iff {α : Type} {fragment : Text} {x : Except Fault α} {a : α} :
    within fragment x = .ok a ↔ x = .ok a := by
  refine ⟨of_within, ?_⟩
  rintro rfl
  rfl

/-- Whether `barcodeAttribute` takes an attribute does not depend on the barcode. -/
theorem barcodeAttribute_of_ok (b b' : Barcode) (a : Attribute) (r : Barcode)
    (h : barcodeAttribute b a = .ok r) : ∃ r', barcodeAttribute b' a = .ok r' := by
  have hr : ∃ r, barcodeAttribute b a = .ok r := ⟨r, h⟩
  unfold barcodeAttribute at hr ⊢
  by_cases htype : a.key = "type".toList
  · rw [if_pos htype, exists_map_eq_ok_iff] at hr ⊢
    exact hr
  rw [if_neg htype] at hr ⊢
  by_cases hheight : a.key = "height".toList
  · rw [if_pos hheight, exists_map_eq_ok_iff] at hr ⊢
    exact hr
  rw [if_neg hheight] at hr ⊢
  by_cases hwidth : a.key = "width".toList
  · rw [if_pos hwidth, exists_map_eq_ok_iff] at hr ⊢
    exact hr
  rw [if_neg hwidth] at hr ⊢
  by_cases htext : a.key = "text".toList
  · rw [if_pos htext, exists_map_eq_ok_iff] at hr ⊢
    exact hr
  rw [if_neg htext] at hr
  obtain ⟨_, h⟩ := hr
  cases h

theorem exists_barcodeElement_iff {align : Align} {as : List Attribute} {content : Text}
    (b : Barcode) : (∃ e, blockElement align .barcode as content = .ok e) ↔
      ∀ a ∈ as, ∃ r, barcodeAttribute b a = .ok r := by
  simp only [blockElement]
  rw [exists_map_eq_ok_iff, exists_foldlM_eq_ok_iff barcodeAttribute_of_ok]
  constructor
  · intro h a ha
    obtain ⟨r, hr⟩ := h a ha
    exact barcodeAttribute_of_ok _ b a r hr
  · intro h a ha
    obtain ⟨r, hr⟩ := h a ha
    exact barcodeAttribute_of_ok b _ a r hr

theorem blockElement_of_ok {align : Align} (align' : Align) {kind : BlockKind} {as : List Attribute}
    {content : Text} {e : Element} (h : blockElement align kind as content = .ok e) :
    ∃ e', blockElement align' kind as content = .ok e' := by
  cases kind with
  | picture =>
    simp only [blockElement] at h ⊢
    obtain ⟨_, hreject, h⟩ := bind_eq_ok_iff.1 h
    rw [hreject, ok_bind]
    cases hbitmap : Bitmap.ofHex content with
    | ok bitmap => exact ⟨_, rfl⟩
    | error fault =>
      rw [hbitmap] at h
      cases h
  | barcode =>
    rw [exists_barcodeElement_iff { symbology := .ean13, content }]
    exact (exists_barcodeElement_iff _).1 ⟨e, h⟩
  | qrCode => exact exists_map_eq_ok_iff.2 (exists_map_eq_ok_iff.1 ⟨e, h⟩)

/-! ### Tokens that can be read -/

/-- Whether tokens can be read inside open styles, so that all styles are closed at their end. -/
def Accepts : List StyleTag → List Token → Prop
  | styles, [] => styles = []
  | styles, .text _ :: rest => Accepts styles rest
  | styles, .align _ :: rest => Accepts styles rest
  | styles, .closing name _ :: rest =>
    ∃ style outer, styles = style :: outer ∧ style.name = name ∧ Accepts outer rest
  | styles, .opening name attributes _ :: rest =>
    ∃ as style, parseAttributes attributes = .ok as ∧ openStyle name as = .ok style ∧
      Accepts (style :: styles) rest
  | styles, .block kind attributes _ content :: rest =>
    styles = [] ∧ (∃ as inside e, parseAttributes attributes = .ok as ∧ content = some inside ∧
      blockElement .left kind as inside = .ok e) ∧ Accepts styles rest
  | _, .unterminated _ :: _ => False

theorem exists_readBlock_iff {align : Align} {styles : List StyleTag} {kind : BlockKind}
    {attributes raw : Text} {content : Option Text} :
    (∃ e, readBlock align styles kind attributes raw content = .ok e) ↔
      styles = [] ∧ ∃ as inside e, parseAttributes attributes = .ok as ∧ content = some inside ∧
        blockElement .left kind as inside = .ok e := by
  constructor
  · rintro ⟨e, h⟩
    obtain ⟨as, has, h⟩ := bind_eq_ok_iff.1 h
    cases styles with
    | cons style styles => cases h
    | nil =>
      cases content with
      | none => cases h
      | some inside =>
        obtain ⟨e', he'⟩ := blockElement_of_ok .left (of_within h)
        exact ⟨rfl, as, inside, e', of_within has, rfl, he'⟩
  · rintro ⟨rfl, as, inside, e, has, rfl, he⟩
    obtain ⟨e', he'⟩ := blockElement_of_ok align he
    exact ⟨e', bind_eq_ok_iff.2 ⟨as, within_eq_ok_iff.2 has, within_eq_ok_iff.2 he'⟩⟩

theorem exists_readItems_iff (align : Align) {styles : List StyleTag} {toks : List Token} :
    (∃ r, readItems align styles toks = .ok r ∧ r.styles = []) ↔ Accepts styles toks := by
  induction toks generalizing align styles with
  | nil =>
    constructor
    · rintro ⟨r, h, hr⟩
      cases h
      exact hr
    · exact fun h => ⟨_, rfl, h⟩
  | cons tok toks ih =>
    cases tok with
    | text content =>
      rw [Accepts, ← ih align]
      constructor
      · rintro ⟨r, h, hr⟩
        obtain ⟨reading, hreading, h⟩ := bind_eq_ok_iff.1 h
        cases h
        exact ⟨reading, hreading, hr⟩
      · rintro ⟨reading, hreading, hr⟩
        exact ⟨_, bind_eq_ok_iff.2 ⟨reading, hreading, rfl⟩, hr⟩
    | align a => exact ih a
    | closing name raw =>
      constructor
      · rintro ⟨r, h, hr⟩
        cases styles with
        | nil => cases h
        | cons style outer =>
          rw [readItems] at h
          split at h
          · next hname => exact ⟨style, outer, rfl, hname, (ih align).1 ⟨r, h, hr⟩⟩
          · cases h
      · rintro ⟨style, outer, rfl, hname, hrest⟩
        rw [readItems, if_pos hname]
        exact (ih align).2 hrest
    | opening name attributes raw =>
      constructor
      · rintro ⟨r, h, hr⟩
        obtain ⟨as, has, h⟩ := bind_eq_ok_iff.1 h
        obtain ⟨style, hstyle, h⟩ := bind_eq_ok_iff.1 h
        exact ⟨as, style, of_within has, of_within hstyle, (ih align).1 ⟨r, h, hr⟩⟩
      · rintro ⟨as, style, has, hstyle, hrest⟩
        obtain ⟨r, h, hr⟩ := (ih align).2 hrest
        refine ⟨r, bind_eq_ok_iff.2 ⟨as, within_eq_ok_iff.2 has, ?_⟩, hr⟩
        exact bind_eq_ok_iff.2 ⟨style, within_eq_ok_iff.2 hstyle, h⟩
    | block kind attributes raw content =>
      constructor
      · rintro ⟨r, h, hr⟩
        obtain ⟨e, he, h⟩ := bind_eq_ok_iff.1 h
        obtain ⟨reading, hreading, h⟩ := bind_eq_ok_iff.1 h
        cases h
        obtain ⟨hstyles, hblock⟩ := exists_readBlock_iff.1 ⟨e, he⟩
        exact ⟨hstyles, hblock, (ih align).1 ⟨reading, hreading, hr⟩⟩
      · rintro ⟨hstyles, hblock, hrest⟩
        obtain ⟨e, he⟩ := exists_readBlock_iff.2 ⟨hstyles, hblock⟩
        obtain ⟨reading, hreading, hr⟩ := (ih align).2 hrest
        refine ⟨reading.cons (.block e), ?_, hr⟩
        rw [readItems, he, ok_bind, hreading]
        rfl
    | unterminated rest =>
      constructor
      · rintro ⟨r, h, -⟩
        cases h
      · exact False.elim

/-! ### Lines that can be read -/

/-- Whether a line can be read. -/
def Reads (line : Text) : Prop := ∃ r, parseLine .left line = .ok r

theorem exists_parseLine_iff (align : Align) {line : Text} :
    (∃ r, parseLine align line = .ok r) ↔ Accepts [] (tokens line) := by
  rw [← exists_readItems_iff align]
  constructor
  · rintro ⟨r, h⟩
    obtain ⟨reading, hreading, h⟩ := bind_eq_ok_iff.1 h
    refine ⟨reading, hreading, ?_⟩
    split at h
    · assumption
    · cases h
  · rintro ⟨reading, hreading, hstyles⟩
    refine ⟨(reading.align, finishLine reading.items), ?_⟩
    rw [parseLine, hreading, ok_bind, hstyles]

theorem reads_iff {line : Text} : Reads line ↔ Accepts [] (tokens line) := exists_parseLine_iff .left

theorem reads_of_parseLine {align : Align} {line : Text} {r : Align × List Element}
    (h : parseLine align line = .ok r) : Reads line :=
  reads_iff.2 ((exists_parseLine_iff align).1 ⟨r, h⟩)

theorem reads_nil : Reads [] := by
  rw [reads_iff, tokens]
  rfl

theorem reads_alignTag_append {align : Align} {line : Text} :
    Reads (alignTag align ++ line) ↔ Reads line := by
  rw [reads_iff, reads_iff, tokens_alignTag, Accepts]

theorem exists_parseLines_iff (align : Align) {lines : List Text} :
    (∃ es, parseLines align lines = .ok es) ↔ ∀ line ∈ lines, Reads line := by
  induction lines generalizing align with
  | nil => exact ⟨fun _ => by simp, fun _ => ⟨[], rfl⟩⟩
  | cons line lines ih =>
    rw [List.forall_mem_cons]
    constructor
    · rintro ⟨es, h⟩
      obtain ⟨⟨next, first⟩, hfirst, h⟩ := bind_eq_ok_iff.1 h
      obtain ⟨rest, hrest, -⟩ := bind_eq_ok_iff.1 h
      exact ⟨reads_of_parseLine hfirst, (ih next).1 ⟨rest, hrest⟩⟩
    · rintro ⟨hline, hlines⟩
      obtain ⟨⟨next, first⟩, hfirst⟩ := (exists_parseLine_iff align).2 (reads_iff.1 hline)
      obtain ⟨rest, hrest⟩ := (ih next).2 hlines
      refine ⟨first ++ rest, ?_⟩
      rw [parseLines, hfirst, ok_bind]
      simp only [hrest, ok_bind]
      rfl

/-- `parse` succeeds exactly if each line of the markup `Reads`. -/
theorem exists_parse_iff {markup : Text} :
    (∃ es, parse markup = .ok es) ↔ ∀ line ∈ splitLines markup, Reads line := by
  rw [← exists_parseLines_iff .left]
  constructor
  · rintro ⟨es, h⟩
    obtain ⟨es', h', -⟩ := map_eq_ok_iff.1 h
    exact ⟨es', h'⟩
  · rintro ⟨es, h⟩
    exact ⟨_, map_eq_ok_iff.2 ⟨es, h, rfl⟩⟩

/-! ### A carriage return at the end of a line -/

theorem accepts_consText {styles : List StyleTag} {c : Char} {toks : List Token} :
    Accepts styles (consText c toks) ↔ Accepts styles toks := by
  unfold consText
  split <;> simp only [Accepts]

theorem length_closing_le {closing s content rest : Text}
    (h : splitAtClosing? closing s = some (content, rest)) : closing.length ≤ s.length := by
  induction s generalizing content with
  | nil => cases h
  | cons c s ih =>
    rw [splitAtClosing?] at h
    split at h
    · next htake =>
      have hlength := congrArg List.length htake
      rw [Text.length_lower, List.length_take] at hlength
      omega
    · obtain ⟨⟨content', rest'⟩, hs, heq⟩ := Option.map_eq_some_iff.1 h
      cases heq
      exact Nat.le_succ_of_le (ih hs)

/-- The first closing tag of a text stays the first one whatever follows the text. -/
theorem splitAtClosing?_append_right {closing s content rest : Text}
    (h : splitAtClosing? closing s = some (content, rest)) (t : Text) :
    splitAtClosing? closing (s ++ t) = some (content, rest ++ t) := by
  induction s generalizing content with
  | nil => cases h
  | cons c s ih =>
    have hle := length_closing_le h
    rw [splitAtClosing?] at h
    rw [List.cons_append, splitAtClosing?, ← List.cons_append, List.take_append_of_le_length hle,
      List.drop_append_of_le_length hle]
    split at h
    · next htake =>
      cases h
      rw [if_pos htake]
    · next htake =>
      obtain ⟨⟨content', rest'⟩, hs, heq⟩ := Option.map_eq_some_iff.1 h
      cases heq
      rw [if_neg htake, ih hs, Option.map_some]

/-- A carriage return completes no closing tag. -/
theorem splitAtClosing?_append_return {kind : BlockKind} {s : Text}
    (h : splitAtClosing? kind.closing s = none) :
    splitAtClosing? kind.closing (s ++ ['\r']) = none := by
  rw [splitAtClosing?_eq_none_iff (closing_ne_nil kind)] at h ⊢
  rintro ⟨t, ht, hlower⟩
  obtain hsuffix | hinfix := List.infix_concat_iff.1 ht
  · have hlast : t.getLast? = some '\r' := by
      cases t using List.reverseRecOn with
      | nil => exact absurd hlower.symm (closing_ne_nil kind)
      | append_singleton t c =>
        obtain ⟨u, hu⟩ := hsuffix
        rw [← List.append_assoc] at hu
        rw [List.getLast?_concat, (List.append_singleton_inj.1 hu).2]
    have hclosing := congrArg List.getLast? hlower
    rw [Text.lower, List.getLast?_map, hlast] at hclosing
    cases kind <;> exact absurd hclosing (by decide)
  · exact h ⟨t, hinfix, hlower⟩

theorem readAlign?_append_return {c : Char} {s : Text} (h : readAlign? (c :: s) = none) :
    readAlign? (c :: s ++ ['\r']) = none := by
  cases hs : readAlign? (c :: s ++ ['\r']) with
  | none => rfl
  | some p =>
    obtain ⟨a, after⟩ := p
    rw [readAlign?_eq_some_iff] at hs
    obtain ⟨u, hu, hafter⟩ | ⟨u, hu, -⟩ := List.append_eq_append_iff.1 hs
    · cases u with
      | nil =>
        rw [List.append_nil] at hu
        rw [readAlign?_eq_some_iff.2 (by rw [← hu, List.append_nil])] at h
        cases h
      | cons d u =>
        have hd : '\r' ∈ alignTag a := by
          rw [hu, (List.cons.inj hafter).1]
          simp
        cases a <;> exact absurd hd (by decide)
    · rw [readAlign?_eq_some_iff.2 hu] at h
      cases h

theorem startsTag_append_return {c : Char} {s : Text} (h : startsTag (c :: s) = false) :
    startsTag (c :: s ++ ['\r']) = false := by
  cases s with
  | nil =>
    rw [List.singleton_append]
    unfold startsTag
    split
    · next heq =>
      cases heq
      decide
    · rfl
  | cons d s =>
    rw [List.cons_append, List.cons_append]
    unfold startsTag at h ⊢
    split
    · next heq =>
      cases heq
      simpa using h
    · rfl

/-- A tag is read the same whatever follows the text after it, unless it is a block that is not
closed in that text. -/
theorem readTag_append (inner after u : Text) :
    readTag inner (after ++ u) = ((readTag inner after).1, (readTag inner after).2 ++ u) ∨
      ∃ kind attributes raw, splitAtClosing? kind.closing after = none ∧
        (readTag inner (after ++ u)).1 =
          .block kind attributes raw ((splitAtClosing? kind.closing (after ++ u)).map Prod.fst) := by
  unfold readTag
  simp only
  split
  · exact .inl rfl
  · split
    · exact .inl rfl
    · next kind _ =>
      cases hsplit : splitAtClosing? kind.closing after with
      | none =>
        refine .inr ⟨kind, inner.dropWhile (!Text.isBlank ·), '<' :: inner ++ ['>'], hsplit, ?_⟩
        cases splitAtClosing? kind.closing (after ++ u) with
        | none => rfl
        | some p => rfl
      | some p =>
        obtain ⟨content, rest⟩ := p
        rw [splitAtClosing?_append_right hsplit]
        exact .inl rfl

theorem readTag_append_return (inner after : Text) :
    readTag inner (after ++ ['\r']) =
        ((readTag inner after).1, (readTag inner after).2 ++ ['\r']) ∨
      ∃ kind attributes raw,
        (readTag inner (after ++ ['\r'])).1 = .block kind attributes raw none := by
  obtain hsame | ⟨kind, attributes, raw, hsplit, hblock⟩ := readTag_append inner after ['\r']
  · exact .inl hsame
  · rw [splitAtClosing?_append_return hsplit] at hblock
    exact .inr ⟨kind, attributes, raw, hblock⟩

theorem Accepts.imp_tail {styles : List StyleTag} {tok : Token} {toks toks' : List Token}
    (h : ∀ styles, Accepts styles toks → Accepts styles toks') (htok : Accepts styles (tok :: toks)) :
    Accepts styles (tok :: toks') := by
  cases tok with
  | text content => exact h styles htok
  | align a => exact h styles htok
  | closing name raw =>
    obtain ⟨style, outer, hstyles, hname, hrest⟩ := htok
    exact ⟨style, outer, hstyles, hname, h outer hrest⟩
  | opening name attributes raw =>
    obtain ⟨as, style, has, hstyle, hrest⟩ := htok
    exact ⟨as, style, has, hstyle, h _ hrest⟩
  | block kind attributes raw content => exact ⟨htok.1, htok.2.1, h styles htok.2.2⟩
  | unterminated rest => exact htok

/-- What is accepted is accepted without a carriage return at its end. -/
theorem accepts_of_return {styles : List StyleTag} {s : Text}
    (h : Accepts styles (tokens (s ++ ['\r']))) : Accepts styles (tokens s) := by
  fun_induction tokens s generalizing styles with
  | case1 =>
    rw [List.nil_append, tokens_cons_text rfl rfl, accepts_consText, tokens] at h
    exact h
  | case2 c rest a rest' hread ih =>
    rw [readAlign?_eq_some_iff] at hread
    rw [hread, List.append_assoc, tokens_alignTag] at h
    exact h.imp_tail fun _ => ih
  | case3 c rest hread htag hdrop =>
    have hdrop' : (rest ++ ['\r']).dropWhile (· != '>') = [] := by
      rw [List.dropWhile_append, hdrop]
      rfl
    have hstart : startsTag (c :: (rest ++ ['\r'])) = true :=
      startsTag_append_of_startsTag htag ['\r']
    rw [List.cons_append, tokens_of_dropWhile_eq_nil hstart hdrop'] at h
    exact h.elim
  | case4 c rest hread htag d after hdrop ih =>
    have hdrop' : (rest ++ ['\r']).dropWhile (· != '>') = d :: (after ++ ['\r']) := by
      rw [List.dropWhile_append, hdrop]
      rfl
    have htake : (rest ++ ['\r']).takeWhile (· != '>') = rest.takeWhile (· != '>') := by
      have hsplit := List.takeWhile_append_dropWhile (p := (· != '>')) (l := rest)
      have hlength := congrArg List.length hsplit
      rw [hdrop, List.length_append, List.length_cons] at hlength
      rw [List.takeWhile_append, if_neg (by omega)]
    have hstart : startsTag (c :: (rest ++ ['\r'])) = true :=
      startsTag_append_of_startsTag htag ['\r']
    rw [List.cons_append, tokens_of_dropWhile_eq_cons hstart hdrop', htake] at h
    rcases readTag_append_return (rest.takeWhile (· != '>')) after with htag' | ⟨_, _, _, htag'⟩
    · rw [htag'] at h
      exact h.imp_tail fun _ => ih
    · -- a block that is never closed cannot be read
      rw [htag'] at h
      obtain ⟨-, ⟨_, _, _, -, hnone, -⟩, -⟩ := h
      cases hnone
  | case5 c rest hread htag ih =>
    have htag := Bool.eq_false_iff.2 htag
    have hcons : tokens (c :: (rest ++ ['\r'])) = consText c (tokens (rest ++ ['\r'])) :=
      tokens_cons_text (readAlign?_append_return hread) (startsTag_append_return htag)
    rw [List.cons_append, hcons, accepts_consText] at h
    rw [accepts_consText]
    exact ih h

theorem Reads.chomp {line : Text} (h : Reads line) : Reads (Text.chomp line) := by
  unfold Text.chomp
  split
  · next hlast =>
    obtain ⟨s, rfl⟩ := List.getLast?_eq_some_iff.1 hlast
    rw [List.dropLast_concat, reads_iff]
    exact accepts_of_return (reads_iff.1 h)
  · exact h

/-! ### Printed blocks -/

/-- A written block `Reads` if its content up to the first closing tag makes an element and what
follows that tag can be read. -/
theorem reads_block_iff {align : Align} {kind : BlockKind} {as : List Attribute}
    {content inside rest : Text} (has : ∀ a ∈ as, a.Writable)
    (hkeys : (as.map Attribute.key).Nodup)
    (hsplit : splitAtClosing? kind.closing (content ++ kind.closing) = some (inside, rest)) :
    Reads (alignTag align ++ openingTag kind.name as ++ content ++ kind.closing) ↔
      (∃ e, blockElement .left kind as inside = .ok e) ∧ Reads rest := by
  have hname := isTagName_kind kind
  have hkind : BlockKind.ofName? kind.name = some kind := by cases kind <;> rfl
  obtain ⟨raw, htag⟩ := readTag_written hname as (content ++ kind.closing)
  simp only [hkind, hsplit] at htag
  simp only [List.append_assoc]
  rw [reads_alignTag_append, reads_iff, reads_iff, tokens_openingTag hname has, htag]
  constructor
  · rintro ⟨-, ⟨as', inside', e, has', hinside, he⟩, hrest⟩
    rw [parseAttributes_written has hkeys] at has'
    cases has'
    cases hinside
    exact ⟨⟨e, he⟩, hrest⟩
  · rintro ⟨⟨e, he⟩, hrest⟩
    exact ⟨rfl, ⟨as, inside, e, parseAttributes_written has hkeys, rfl, he⟩, hrest⟩

end Markup

namespace Barcode

open Markup

/-- Whether the printed barcode can be read. -/
structure Readable (b : Barcode) : Prop where
  height : b.height.isFinitePositive = true
  width : ∀ w ∈ b.width, w.isFinitePositive = true
  /-- If the content leaves the tag, the line goes on with what stands after the closing tag. -/
  content : ∀ inside rest,
    splitAtClosing? BlockKind.barcode.closing b.content = some (inside, rest) →
      Reads (rest ++ BlockKind.barcode.closing)

end Barcode

namespace Markup

open Number

theorem exists_lengthAttribute_iff {key : Text} {x : Single} (f : Single → Barcode) :
    (∃ r, (orFault (.invalidLength key x.toText) (positiveLength? x.toText)).map f = .ok r) ↔
      x.isFinitePositive = true := by
  rw [exists_map_eq_ok_iff, positiveLength?_toText]
  split
  · next h => exact ⟨fun _ => h, fun _ => ⟨x, rfl⟩⟩
  · next h =>
    refine ⟨?_, fun hx => absurd hx h⟩
    rintro ⟨_, hx⟩
    cases hx

/-- The attributes of a printed barcode suit it exactly if its lengths are finite and positive. -/
theorem exists_printedBarcode_iff {b : Barcode} {align : Align} {content : Text} :
    (∃ e, blockElement align .barcode (barcodeAttributes b) content = .ok e) ↔
      b.height.isFinitePositive = true ∧ ∀ w ∈ b.width, w.isFinitePositive = true := by
  rw [exists_barcodeElement_iff b]
  constructor
  · intro h
    constructor
    · have hheight := h ⟨"height".toList, b.height.toText⟩ (by simp [barcodeAttributes])
      exact (exists_lengthAttribute_iff fun height => { b with height }).1 hheight
    · intro w hw
      have hwidth := h ⟨"width".toList, w.toText⟩ (by simp [barcodeAttributes, Option.mem_def.1 hw])
      exact (exists_lengthAttribute_iff fun width => { b with width := some width }).1 hwidth
  · rintro ⟨hheight, hwidth⟩ a ha
    simp only [barcodeAttributes, List.cons_append, List.nil_append, List.mem_cons,
      List.mem_append, List.mem_map, Option.mem_toList, List.not_mem_nil, or_false] at ha
    rcases ha with rfl | rfl | ⟨w, hw, rfl⟩ | rfl
    · exact ⟨_, barcodeAttribute_type b b.symbology⟩
    · exact ⟨_, barcodeAttribute_height b hheight⟩
    · exact ⟨_, barcodeAttribute_width b (hwidth w hw)⟩
    · exact ⟨_, barcodeAttribute_text b b.textPosition⟩

theorem reads_printBarcode_iff {b : Barcode} : Reads (printBarcode b) ↔ b.Readable := by
  rw [printBarcode_eq]
  cases hsplit : splitAtClosing? BlockKind.barcode.closing b.content with
  | none =>
    have hclosing := (splitAtClosing?_eq_none_iff (closing_ne_nil .barcode)).1 hsplit
    rw [reads_block_iff (writable_barcodeAttributes b) (nodup_barcodeAttributes b)
      (splitAtClosing?_closing hclosing), exists_printedBarcode_iff]
    constructor
    · rintro ⟨⟨hheight, hwidth⟩, -⟩
      refine ⟨hheight, hwidth, fun inside rest h => ?_⟩
      rw [hsplit] at h
      cases h
    · exact fun h => ⟨⟨h.height, h.width⟩, reads_nil⟩
  | some p =>
    obtain ⟨inside, rest⟩ := p
    rw [reads_block_iff (writable_barcodeAttributes b) (nodup_barcodeAttributes b)
      (splitAtClosing?_append_right hsplit _), exists_printedBarcode_iff]
    constructor
    · rintro ⟨⟨hheight, hwidth⟩, hrest⟩
      refine ⟨hheight, hwidth, fun inside' rest' h => ?_⟩
      rw [hsplit] at h
      cases h
      exact hrest
    · exact fun h => ⟨⟨h.height, h.width⟩, h.content inside rest hsplit⟩

end Markup

end ReceiptPrinter

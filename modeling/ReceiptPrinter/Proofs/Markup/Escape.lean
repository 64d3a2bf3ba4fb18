import ReceiptPrinter.Proofs.Markup.Concatenation
import ReceiptPrinter.Proofs.Markup.Readable

/-!
# Blocks that are left early

A block ends at the first closing tag of its kind. The blocks that `parse` gives are the block tags
of the lines, in order; a line that ends in the closing tag of a block is accepted only if it has a
block of that kind (`mem_kinds_of_accepts`); so a block with its closing tag in the content is read,
if it can be read, as two blocks at least.
-/

namespace ReceiptPrinter

open Markup

namespace Element

/-- The kind of an element that is a block. -/
def kind? : Element → Option BlockKind
  | .picture _ => some .picture
  | .barcode _ => some .barcode
  | .qrCode _ => some .qrCode
  | .text _ | .feed _ => none

end Element

namespace Markup

/-! ### Blocks that are read -/

def Token.kind? : Token → Option BlockKind
  | .block kind .. => some kind
  | _ => none

def LineItem.kind? : LineItem → Option BlockKind
  | .block e => e.kind?
  | .text .. => none

theorem kind?_blockElement {align : Align} {kind : BlockKind} {as : List Attribute} {content : Text}
    {e : Element} (h : blockElement align kind as content = .ok e) : e.kind? = some kind := by
  cases kind with
  | picture =>
    obtain ⟨_, -, h⟩ := bind_eq_ok_iff.1 h
    split at h
    · cases h
      rfl
    · cases h
  | barcode =>
    obtain ⟨b, -, rfl⟩ := map_eq_ok_iff.1 h
    rfl
  | qrCode =>
    obtain ⟨size, -, rfl⟩ := map_eq_ok_iff.1 h
    rfl

theorem kind?_readBlock {align : Align} {styles : List StyleTag} {kind : BlockKind}
    {attributes raw : Text} {content : Option Text} {e : Element}
    (h : readBlock align styles kind attributes raw content = .ok e) : e.kind? = some kind := by
  obtain ⟨as, -, h⟩ := bind_eq_ok_iff.1 h
  cases styles with
  | cons style styles => cases h
  | nil =>
    cases content with
    | none => cases h
    | some inside => exact kind?_blockElement (of_within h)

/-- The blocks among the items of a line are its block tags. -/
theorem kinds_readItems {align : Align} {styles : List StyleTag} {toks : List Token}
    {r : LineReading} (h : readItems align styles toks = .ok r) :
    r.items.filterMap LineItem.kind? = toks.filterMap Token.kind? := by
  induction toks generalizing align styles r with
  | nil =>
    cases h
    rfl
  | cons tok toks ih =>
    cases tok with
    | text content =>
      obtain ⟨reading, hreading, h⟩ := bind_eq_ok_iff.1 h
      cases h
      exact (List.filterMap_cons_none rfl).trans (ih hreading)
    | align a =>
      rw [readItems] at h
      exact ih h
    | closing name raw =>
      cases styles with
      | nil => cases h
      | cons style outer =>
        rw [readItems] at h
        split at h
        · exact ih h
        · cases h
    | opening name attributes raw =>
      obtain ⟨as, -, h⟩ := bind_eq_ok_iff.1 h
      obtain ⟨style, -, h⟩ := bind_eq_ok_iff.1 h
      exact ih h
    | block kind attributes raw content =>
      obtain ⟨e, he, h⟩ := bind_eq_ok_iff.1 h
      obtain ⟨reading, hreading, h⟩ := bind_eq_ok_iff.1 h
      cases h
      have hitem : (LineItem.block e).kind? = some kind := kind?_readBlock he
      have htok : (Token.block kind attributes raw content).kind? = some kind := rfl
      rw [LineReading.cons, List.filterMap_cons_some hitem, List.filterMap_cons_some htok,
        ih hreading]
    | unterminated rest => cases h

theorem kinds_elements (items : List LineItem) :
    (LineItem.elements items).filterMap Element.kind? = items.filterMap LineItem.kind? := by
  induction items with
  | nil => rfl
  | cons item items ih =>
    cases item with
    | block e =>
      rw [LineItem.elements, List.filterMap_cons, List.filterMap_cons, ih]
      rfl
    | text content align style =>
      exact (List.filterMap_cons_none rfl).trans ih

theorem kinds_finishLine (items : List LineItem) :
    (finishLine items).filterMap Element.kind? = items.filterMap LineItem.kind? := by
  have hstay : (items.filter LineItem.staysBesideBlock).filterMap LineItem.kind? =
      items.filterMap LineItem.kind? := by
    rw [List.filterMap_filter]
    refine List.filterMap_congr fun item _ => ?_
    cases item with
    | block e => rfl
    | text content align style =>
      split <;> rfl
  have hkept : ∀ kept : List LineItem,
      (if kept.isEmpty then [.feed 1] else LineItem.elements kept).filterMap Element.kind? =
        kept.filterMap LineItem.kind? := by
    intro kept
    split
    · next hempty =>
      rw [List.isEmpty_iff.1 hempty]
      rfl
    · exact kinds_elements kept
  unfold finishLine
  simp only
  rw [hkept]
  split
  · exact hstay
  · rfl

theorem kinds_parseLine {align : Align} {line : Text} {r : Align × List Element}
    (h : parseLine align line = .ok r) :
    r.2.filterMap Element.kind? = (tokens line).filterMap Token.kind? := by
  obtain ⟨reading, hreading, h⟩ := bind_eq_ok_iff.1 h
  split at h
  · cases h
    rw [kinds_finishLine, kinds_readItems hreading]
  · cases h

theorem kinds_parseLines {align : Align} {lines : List Text} {es : List Element}
    (h : parseLines align lines = .ok es) :
    es.filterMap Element.kind? = lines.flatMap fun line => (tokens line).filterMap Token.kind? := by
  induction lines generalizing align es with
  | nil =>
    cases h
    rfl
  | cons line lines ih =>
    obtain ⟨⟨next, first⟩, hfirst, h⟩ := bind_eq_ok_iff.1 h
    obtain ⟨rest, hrest, h⟩ := bind_eq_ok_iff.1 h
    cases h
    rw [List.filterMap_append, List.flatMap_cons, ih hrest, ← kinds_parseLine hfirst]

theorem kinds_mergeFeeds (es : List Element) :
    (mergeFeeds es).filterMap Element.kind? = es.filterMap Element.kind? := by
  have hfeed : ∀ m (fs : List Element),
      (consFeed m fs).filterMap Element.kind? = fs.filterMap Element.kind? := by
    intro m fs
    unfold consFeed
    split <;> rfl
  induction es with
  | nil => rfl
  | cons e es ih =>
    by_cases he : ∃ m, e = .feed m
    · obtain ⟨m, rfl⟩ := he
      rw [mergeFeeds_feed_cons, hfeed, ih]
      rfl
    · rw [mergeFeeds_cons_of_ne (not_exists.1 he), List.filterMap_cons, List.filterMap_cons, ih]

/-- The blocks of markup are the block tags of its lines, in order. -/
theorem kinds_parse {markup : Text} {es : List Element} (h : parse markup = .ok es) :
    es.filterMap Element.kind? =
      (splitLines markup).flatMap fun line => (tokens line).filterMap Token.kind? := by
  obtain ⟨read, hread, rfl⟩ := map_eq_ok_iff.1 h
  rw [kinds_mergeFeeds, kinds_parseLines hread]

/-! ### Closing tags at the end of a line -/

/-- The closing tag of another kind completes no `kind.closing`. -/
theorem splitAtClosing?_append_closing {kind other : BlockKind} (hne : kind ≠ other) {s : Text}
    (h : splitAtClosing? kind.closing s = none) :
    splitAtClosing? kind.closing (s ++ other.closing) = none := by
  induction s with
  | nil => cases kind <;> cases other <;> first | rfl | exact absurd rfl hne
  | cons c s ih =>
    have hnot := (splitAtClosing?_eq_none_iff (closing_ne_nil kind)).1 h
    have hbracket : '<' ∉ '/' :: kind.name ++ ['>'] := by cases kind <;> decide
    have htake : Text.lower ((c :: s ++ other.closing).take kind.closing.length) ≠ kind.closing :=
      lower_take_append_ne (List.cons_ne_nil c s) hbracket hnot rfl
    rw [splitAtClosing?] at h
    split at h
    · cases h
    · rw [List.cons_append, splitAtClosing?, ← List.cons_append, if_neg htake,
        ih (Option.map_eq_none_iff.1 h), Option.map_none]

theorem Accepts.tail {styles : List StyleTag} {tok : Token} {toks : List Token}
    (h : Accepts styles (tok :: toks)) : ∃ inner, Accepts inner toks := by
  cases tok with
  | text content => exact ⟨styles, h⟩
  | align a => exact ⟨styles, h⟩
  | closing name raw =>
    obtain ⟨style, outer, -, -, hrest⟩ := h
    exact ⟨outer, hrest⟩
  | opening name attributes raw =>
    obtain ⟨as, style, -, -, hrest⟩ := h
    exact ⟨style :: styles, hrest⟩
  | block kind attributes raw content => exact ⟨styles, h.2.2⟩
  | unterminated rest => exact h.elim

theorem kinds_consText (c : Char) (toks : List Token) :
    (consText c toks).filterMap Token.kind? = toks.filterMap Token.kind? := by
  unfold consText
  split <;> rfl

/-- A tag before a closing tag is read as it is without it, or is a block that ends there or that
cannot be read. -/
theorem readTag_append_closing (kind : BlockKind) (inner after : Text) :
    readTag inner (after ++ kind.closing) =
        ((readTag inner after).1, (readTag inner after).2 ++ kind.closing) ∨
      (readTag inner (after ++ kind.closing)).1.kind? = some kind ∨
      ∃ other attributes raw,
        (readTag inner (after ++ kind.closing)).1 = .block other attributes raw none := by
  obtain hsame | ⟨other, attributes, raw, hsplit, hblock⟩ :=
    readTag_append inner after kind.closing
  · exact .inl hsame
  · by_cases hkind : other = kind
    · rw [hblock, hkind]
      exact .inr (.inl rfl)
    · rw [splitAtClosing?_append_closing hkind hsplit] at hblock
      exact .inr (.inr ⟨other, attributes, raw, hblock⟩)

theorem lt_notMem_name (style : StyleTag) : '<' ∉ style.name := by
  cases style with
  | font size => exact (by decide : '<' ∉ "font".toList)
  | _ => decide

theorem name_ne_kind (style : StyleTag) (kind : BlockKind) : style.name ≠ kind.name := by
  cases style with
  | font size =>
    show "font".toList ≠ kind.name
    cases kind <;> decide
  | _ => cases kind <;> decide

/-- A tag at the end of a line that has swallowed the bracket of another one is not accepted. -/
theorem not_accepts_last_tag {styles : List StyleTag} {inner : Text} (hmem : '<' ∈ inner.tail) :
    ¬Accepts styles ((readTag inner []).1 :: tokens (readTag inner []).2) := by
  have htokens : tokens [] = [] := by rw [tokens]
  unfold readTag
  simp only
  split
  · next name =>
    rintro ⟨style, outer, -, hname, -⟩
    have hbracket : '<' ∈ style.name := by
      rw [hname]
      exact List.mem_map.2 ⟨'<', Text.mem_trim hmem (by decide), rfl⟩
    exact lt_notMem_name style hbracket
  · split
    · rintro ⟨as, style, -, -, hrest⟩
      rw [htokens] at hrest
      cases hrest
    · rintro ⟨-, ⟨_, _, _, -, hnone, -⟩, -⟩
      cases hnone

theorem not_accepts_closing (kind : BlockKind) (styles : List StyleTag) :
    ¬Accepts styles (tokens kind.closing) := by
  have htokens : tokens kind.closing = [.closing kind.name kind.closing] := by
    have hinner : '>' ∉ '/' :: kind.name := by cases kind <;> decide
    have htag := tokens_tag rfl hinner []
    have hrest : (readTag ('/' :: kind.name) []).2 = [] := rfl
    rw [hrest, tokens] at htag
    cases kind <;> exact htag
  rw [htokens]
  rintro ⟨style, outer, -, hname, -⟩
  exact name_ne_kind style kind hname

theorem exists_of_append_closing {kind : BlockKind} {a : Align} {s rest : Text}
    (h : s ++ kind.closing = alignTag a ++ rest) :
    ∃ after, s = alignTag a ++ after ∧ rest = after ++ kind.closing := by
  obtain ⟨u, halign, hclosing⟩ | ⟨u, hs, hrest⟩ := List.append_eq_append_iff.1 h
  · cases u with
    | nil => exact ⟨[], by simpa using halign.symm, hclosing.symm⟩
    | cons d u =>
      have hd : '<' ∈ alignTag a := by
        rw [halign, ← (List.cons.inj hclosing).1]
        simp
      cases a <;> exact absurd hd (by decide)
  · exact ⟨u, hs, hrest⟩

theorem mem_kinds_cons {kind : BlockKind} {toks : List Token} (tok : Token)
    (h : kind ∈ toks.filterMap Token.kind?) : kind ∈ (tok :: toks).filterMap Token.kind? :=
  ((List.sublist_cons_self tok toks).filterMap Token.kind?).subset h

/-- A tag that has no bracket before the closing tag ends with it, and is not accepted. -/
theorem not_accepts_open_tag {kind : BlockKind} {styles : List StyleTag} {s : Text} (hend : '>' ∉ s)
    (htag : startsTag ('<' :: s ++ kind.closing) = true) :
    ¬Accepts styles (tokens ('<' :: s ++ kind.closing)) := by
  have hline : '<' :: s ++ kind.closing = '<' :: (s ++ '<' :: '/' :: kind.name) ++ '>' :: [] := by
    simp [BlockKind.closing]
  have hinner : '>' ∉ s ++ '<' :: '/' :: kind.name := by
    rw [List.mem_append, not_or]
    exact ⟨hend, by cases kind <;> decide⟩
  rw [hline] at htag ⊢
  rw [tokens_tag (startsTag_inner rfl htag) hinner []]
  refine not_accepts_last_tag ?_
  cases s with
  | nil => cases htag
  | cons d s => simp

/-- A tag before the closing tag of a block is such a block, or the line goes on after the tag. -/
theorem mem_kinds_or_accepts_rest {kind : BlockKind} {styles : List StyleTag} {inner after : Text}
    (htag : startsTag ('<' :: inner) = true) (hinner : '>' ∉ inner)
    (h : Accepts styles (tokens ('<' :: inner ++ '>' :: (after ++ kind.closing)))) :
    kind ∈ (tokens ('<' :: inner ++ '>' :: (after ++ kind.closing))).filterMap Token.kind? ∨
      ∃ tok rest styles', rest.length ≤ after.length ∧
        Accepts styles' (tokens (rest ++ kind.closing)) ∧
        tokens ('<' :: inner ++ '>' :: (after ++ kind.closing)) =
          tok :: tokens (rest ++ kind.closing) := by
  rw [tokens_tag htag hinner] at h ⊢
  obtain hsame | hkind | ⟨other, attributes, raw, hblock⟩ := readTag_append_closing kind inner after
  · rw [hsame] at h ⊢
    obtain ⟨styles', hrest⟩ := h.tail
    exact .inr ⟨_, _, styles', length_readTag_le inner after, hrest, rfl⟩
  · exact .inl (List.mem_filterMap.2 ⟨_, List.mem_cons_self, hkind⟩)
  · rw [hblock] at h
    obtain ⟨-, ⟨_, _, _, -, hnone, -⟩, -⟩ := h
    cases hnone

/-- `Accepts` holds of a line that ends in the closing tag of a block only if the line has such a
block. -/
theorem mem_kinds_of_accepts {kind : BlockKind} {styles : List StyleTag} {s : Text}
    (h : Accepts styles (tokens (s ++ kind.closing))) :
    kind ∈ (tokens (s ++ kind.closing)).filterMap Token.kind? := by
  induction hn : s.length using Nat.strong_induction_on generalizing s styles with
  | _ n ih =>
  subst hn
  cases s with
  | nil => exact absurd h (not_accepts_closing kind styles)
  | cons c s =>
    cases hread : readAlign? (c :: s ++ kind.closing) with
    | some p =>
      obtain ⟨a, rest⟩ := p
      obtain ⟨after, hs, -⟩ := exists_of_append_closing (readAlign?_eq_some_iff.1 hread)
      have hlt : after.length < (c :: s).length := by
        have hpos : 0 < (alignTag a).length := by cases a <;> decide
        rw [hs, List.length_append]
        omega
      rw [hs, List.append_assoc, tokens_alignTag] at h ⊢
      exact mem_kinds_cons _ (ih after.length hlt h rfl)
    | none =>
      cases htag : startsTag (c :: s ++ kind.closing) with
      | false =>
        have htokens : tokens (c :: s ++ kind.closing) = consText c (tokens (s ++ kind.closing)) :=
          tokens_cons_text hread htag
        rw [htokens, accepts_consText] at h
        rw [htokens, kinds_consText]
        exact ih s.length (Nat.lt_succ_self _) h rfl
      | true =>
        cases eq_of_startsTag htag
        by_cases hend : '>' ∈ s
        · obtain ⟨inner, after, rfl, hinner⟩ := List.eq_append_cons_of_mem hend
          have hline : '<' :: (inner ++ '>' :: after) ++ kind.closing =
            '<' :: inner ++ '>' :: (after ++ kind.closing) := by simp
          rw [hline] at htag h ⊢
          obtain hmem | ⟨tok, rest, styles', hle, hrest, htokens⟩ :=
            mem_kinds_or_accepts_rest (startsTag_inner rfl htag) hinner h
          · exact hmem
          · rw [htokens]
            refine mem_kinds_cons tok (ih rest.length ?_ hrest rfl)
            simp only [List.length_cons, List.length_append]
            omega
        · exact absurd h (not_accepts_open_tag hend htag)

/-- A written block with its closing tag in the content has another block of its kind after it, if
`Reads` holds of the line. -/
theorem two_le_count_of_reads {align : Align} {kind : BlockKind} {as : List Attribute}
    {content inside rest : Text} (has : ∀ a ∈ as, a.Writable)
    (hkeys : (as.map Attribute.key).Nodup)
    (hsplit : splitAtClosing? kind.closing content = some (inside, rest))
    (h : Reads (alignTag align ++ openingTag kind.name as ++ content ++ kind.closing)) :
    2 ≤ ((tokens (alignTag align ++ openingTag kind.name as ++ content ++
      kind.closing)).filterMap Token.kind?).count kind := by
  have hsplit := splitAtClosing?_append_right hsplit kind.closing
  have hrest := ((reads_block_iff has hkeys hsplit).1 h).2
  have hmem := mem_kinds_of_accepts (reads_iff.1 hrest)
  have hkind : BlockKind.ofName? kind.name = some kind := by cases kind <;> rfl
  obtain ⟨raw, htag⟩ := readTag_written (isTagName_kind kind) as (content ++ kind.closing)
  simp only [hkind, hsplit] at htag
  simp only [List.append_assoc]
  have hfirst : (Token.block kind (as.flatMap Attribute.written) raw (some inside)).kind? =
    some kind := rfl
  rw [tokens_alignTag, tokens_openingTag (isTagName_kind kind) has, htag,
    List.filterMap_cons_none rfl, List.filterMap_cons_some hfirst, List.count_cons_self]
  exact Nat.succ_le_succ (List.count_pos_iff.2 hmem)

/-- The line of a barcode whose content leaves the tag has two barcodes at least, if it can be read.
-/
theorem two_le_count_printBarcode {b : Barcode}
    (hclosing : HasClosing BlockKind.barcode.closing b.content) (h : Reads (printBarcode b)) :
    2 ≤ ((tokens (printBarcode b)).filterMap Token.kind?).count .barcode := by
  rw [printBarcode_eq] at h ⊢
  cases hsplit : splitAtClosing? BlockKind.barcode.closing b.content with
  | none => exact absurd hclosing ((splitAtClosing?_eq_none_iff (closing_ne_nil _)).1 hsplit)
  | some p =>
    exact two_le_count_of_reads (writable_barcodeAttributes b) (nodup_barcodeAttributes b) hsplit h

end Markup

end ReceiptPrinter

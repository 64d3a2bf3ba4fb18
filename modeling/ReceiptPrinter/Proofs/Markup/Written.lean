import ReceiptPrinter.Markup.Printer
import ReceiptPrinter.Proofs.Bitmap.Descriptor
import ReceiptPrinter.Proofs.Markup.Attribute
import ReceiptPrinter.Proofs.Markup.Canonical
import ReceiptPrinter.Proofs.Number.Reading

/-!
# Tags, runs and blocks in the form in which they are written

`parseLine_runs`: runs of text of which only the last one ends its line read back as they are.
`parseLine_block`: so does a block. No tag holds a control character.
-/

namespace ReceiptPrinter.Markup

open Number

/-! ### Style tags -/

namespace StyleTag

def opening : StyleTag → Text
  | .bold => "<b>".toList
  | .underline => "<u>".toList
  | .font size => fontTag size

def closing (tag : StyleTag) : Text := '<' :: '/' :: tag.name ++ ['>']

/-- The tags of a style, the innermost first. -/
def ofStyle (style : TextStyle) : List StyleTag :=
  (if style.underline then [.underline] else []) ++ (if style.bold then [.bold] else []) ++
    if style.size = .normal then [] else [.font style.size]

theorem style_ofStyle (style : TextStyle) : StyleTag.style (ofStyle style) = style := by
  rcases style with ⟨bold, underline, size⟩
  cases bold <;> cases underline <;> cases size <;> rfl

theorem openTags_eq (style : TextStyle) :
    openTags style = (ofStyle style).reverse.flatMap opening := by
  rcases style with ⟨bold, underline, size⟩
  cases bold <;> cases underline <;> cases size <;> rfl

theorem closeTags_eq (style : TextStyle) : closeTags style = (ofStyle style).flatMap closing := by
  rcases style with ⟨bold, underline, size⟩
  cases bold <;> cases underline <;> cases size <;> rfl

end StyleTag

/-! ### Opening tags -/

structure IsTagName (name : Text) : Prop where
  starts : startsTag ('<' :: name) = true
  chars : ∀ c ∈ name, Text.isBlank c = false ∧ c ≠ '/' ∧ c ≠ '>'
  lower : Text.lower name = name

/-- The tag `name` with written attributes. -/
def openingTag (name : Text) (as : List Attribute) : Text :=
  '<' :: (name ++ as.flatMap Attribute.written) ++ ['>']

section
variable {name : Text} {as : List Attribute}

theorem tokens_openingTag (hname : IsTagName name) (has : ∀ a ∈ as, a.Writable) (after : Text) :
    tokens (openingTag name as ++ after) =
      (readTag (name ++ as.flatMap Attribute.written) after).1 ::
        tokens (readTag (name ++ as.flatMap Attribute.written) after).2 := by
  have hinner : '>' ∉ name ++ as.flatMap Attribute.written := by
    intro hc
    rcases List.mem_append.1 hc with hc | hc
    · exact (hname.chars _ hc).2.2 rfl
    · obtain ⟨a, ha, hc⟩ := List.mem_flatMap.1 hc
      exact (has a ha).not_mem_written hc
  have hstart := startsTag_append_of_startsTag hname.starts (as.flatMap Attribute.written)
  rw [openingTag, List.append_assoc, List.singleton_append]
  exact tokens_tag hstart hinner after

/-- The name of a tag is what stands before its first white space. -/
theorem readTag_append_attributes {attributes : Text} (hne : name ≠ [])
    (hname : ∀ c ∈ name, Text.isBlank c = false ∧ c ≠ '/')
    (hblank : ∀ c ∈ attributes.head?, Text.isBlank c = true) (after : Text) :
    readTag (name ++ attributes) after =
      match BlockKind.ofName? (Text.lower name) with
      | none =>
        (.opening (Text.lower name) attributes ('<' :: (name ++ attributes) ++ ['>']), after)
      | some kind =>
        match splitAtClosing? kind.closing after with
        | some (content, rest) =>
          (.block kind attributes ('<' :: (name ++ attributes) ++ ['>']) (some content), rest)
        | none => (.block kind attributes ('<' :: (name ++ attributes) ++ ['>']) none, []) := by
  have hp : ∀ c ∈ name, (!Text.isBlank c) = true := fun c hc => by
    rw [(hname c hc).1, Bool.not_false]
  have hattributes : attributes.takeWhile (!Text.isBlank ·) = [] ∧
      attributes.dropWhile (!Text.isBlank ·) = attributes := by
    cases attributes with
    | nil => exact ⟨rfl, rfl⟩
    | cons c attributes =>
      have hc : ¬(!Text.isBlank c) = true := by
        rw [hblank c rfl]
        exact Bool.false_ne_true
      exact ⟨List.takeWhile_cons_of_neg hc, List.dropWhile_cons_of_neg hc⟩
  unfold readTag
  simp only [List.takeWhile_append_of_pos hp, List.dropWhile_append_of_pos hp, hattributes.1,
    hattributes.2, List.append_nil]
  split
  · next rest hslash =>
    cases name with
    | nil => exact absurd rfl hne
    | cons c name =>
      rw [List.cons_append, List.cons.injEq] at hslash
      exact absurd hslash.1 (hname c (by simp)).2
  · rfl

theorem readTag_written (hname : IsTagName name) (as : List Attribute) (after : Text) :
    ∃ raw, readTag (name ++ as.flatMap Attribute.written) after =
      match BlockKind.ofName? name with
      | none => (.opening name (as.flatMap Attribute.written) raw, after)
      | some kind =>
        match splitAtClosing? kind.closing after with
        | some (content, rest) =>
          (.block kind (as.flatMap Attribute.written) raw (some content), rest)
        | none => (.block kind (as.flatMap Attribute.written) raw none, []) := by
  have hne : name ≠ [] := by
    rintro rfl
    exact absurd hname.starts (by decide)
  have hblank : ∀ c ∈ (as.flatMap Attribute.written).head?, Text.isBlank c = true := by
    cases as with
    | nil => simp
    | cons a as =>
      intro c hc
      cases hc
      rfl
  have hread := readTag_append_attributes hne
    (fun c hc => ⟨(hname.chars c hc).1, (hname.chars c hc).2.1⟩) hblank after
  rw [hname.lower] at hread
  exact ⟨_, hread⟩

end

theorem readItems_openingTag {name : Text} {as : List Attribute} {style : StyleTag}
    (hname : IsTagName name) (has : ∀ a ∈ as, a.Writable) (hkeys : (as.map Attribute.key).Nodup)
    (hkind : BlockKind.ofName? name = none) (hstyle : openStyle name as = .ok style)
    (align : Align) (styles : List StyleTag) (after : Text) :
    readItems align styles (tokens (openingTag name as ++ after)) =
      readItems align (style :: styles) (tokens after) := by
  obtain ⟨raw, htag⟩ := readTag_written hname as after
  rw [hkind] at htag
  rw [tokens_openingTag hname has, htag]
  simp only [readItems, parseAttributes_written has hkeys, within, ok_bind, hstyle]

/-! ### Runs of text -/

/-- What may follow a stretch of text: nothing or a tag. -/
def AtTag (rest : Text) : Prop := EndsText rest ∧ ∀ t toks, tokens rest ≠ .text t :: toks

theorem atTag_nil : AtTag [] := ⟨endsText_nil, by simp [tokens]⟩

theorem atTag_alignTag (a : Align) (rest : Text) : AtTag (alignTag a ++ rest) :=
  ⟨endsText_alignTag a rest, by simp [tokens_alignTag]⟩

theorem tokens_closingTag {name : Text} (hblank : ∀ c ∈ name, Text.isBlank c = false)
    (hend : '>' ∉ name) (rest : Text) :
    tokens ('<' :: '/' :: name ++ '>' :: rest) =
      .closing (Text.lower name) ('<' :: '/' :: name ++ ['>']) :: tokens rest := by
  have hinner : '>' ∉ '/' :: name := by
    rw [List.mem_cons, not_or]
    exact ⟨by decide, hend⟩
  have htokens := tokens_tag (by rfl : startsTag ('<' :: '/' :: name) = true) hinner rest
  simp only [readTag, Text.trim_of_not_blank hblank] at htokens
  exact htokens

namespace StyleTag

theorem tokens_closing (tag : StyleTag) (rest : Text) :
    tokens (tag.closing ++ rest) = .closing tag.name tag.closing :: tokens rest := by
  have hfont : (∀ c ∈ "font".toList, Text.isBlank c = false) ∧ '>' ∉ "font".toList := by decide
  have hname : (∀ c ∈ tag.name, Text.isBlank c = false) ∧ '>' ∉ tag.name := by
    rcases tag with _ | _ | size
    · decide
    · decide
    · exact hfont
  have hlower : Text.lower tag.name = tag.name := by cases tag <;> rfl
  have htokens := tokens_closingTag hname.1 hname.2 rest
  rw [hlower] at htokens
  rw [closing, List.append_assoc]
  exact htokens

theorem atTag_closings (tags : List StyleTag) {rest : Text} (h : AtTag rest) :
    AtTag (tags.flatMap closing ++ rest) := by
  cases tags with
  | nil => exact h
  | cons tag tags =>
    rw [List.flatMap_cons, List.append_assoc]
    refine ⟨?_, by simp [tokens_closing]⟩
    simp [EndsText, closing]

theorem readItems_closings (align : Align) (tags styles : List StyleTag) (rest : Text) :
    readItems align (tags ++ styles) (tokens (tags.flatMap closing ++ rest)) =
      readItems align styles (tokens rest) := by
  induction tags with
  | nil => rfl
  | cons tag tags ih =>
    rw [List.flatMap_cons, List.append_assoc, tokens_closing, List.cons_append, readItems,
      if_pos rfl, ih]

theorem readItems_opening (align : Align) (tag : StyleTag) (styles : List StyleTag) (rest : Text) :
    readItems align styles (tokens (tag.opening ++ rest)) =
      readItems align (tag :: styles) (tokens rest) := by
  have hnone : ∀ a ∈ ([] : List Attribute), a.Writable := by simp
  cases tag with
  | bold =>
    have hname : IsTagName "b".toList := ⟨rfl, by decide, rfl⟩
    exact readItems_openingTag hname hnone (by simp) rfl rfl align styles rest
  | underline =>
    have hname : IsTagName "u".toList := ⟨rfl, by decide, rfl⟩
    exact readItems_openingTag hname hnone (by simp) rfl rfl align styles rest
  | font size =>
    have hsize : ∀ a ∈ [(⟨"size".toList, size.name⟩ : Attribute)], a.Writable := by
      intro a ha
      rw [List.mem_singleton.1 ha]
      exact .of_key (by decide) (by cases size <;> decide)
    have hopen : openStyle "font".toList [⟨"size".toList, size.name⟩] = .ok (.font size) := by
      cases size <;> rfl
    have htag : fontTag size = openingTag "font".toList [⟨"size".toList, size.name⟩] := by
      cases size <;> rfl
    rw [opening, htag]
    exact readItems_openingTag ⟨rfl, by decide, rfl⟩ hsize (by simp) rfl hopen align styles rest

/-- `readItems` opens `tags` with the outermost first. -/
theorem readItems_openings (align : Align) (tags styles : List StyleTag) (rest : Text) :
    readItems align styles (tokens (tags.reverse.flatMap opening ++ rest)) =
      readItems align (tags ++ styles) (tokens rest) := by
  induction tags generalizing rest with
  | nil => rfl
  | cons tag tags ih =>
    rw [List.reverse_cons, List.flatMap_append, List.append_assoc, ih, List.flatMap_singleton,
      readItems_opening, List.cons_append]

end StyleTag

def LineItem.ofRun (run : TextRun) : LineItem := .text run.content run.align run.style

theorem readItems_printRun {run : TextRun} (h : (Element.text run).Sound) {rest : Text}
    (hrest : AtTag rest) (align : Align) :
    readItems align [] (tokens (printRun run ++ rest)) =
      readItems run.align [] (tokens rest) >>= fun r => .ok (r.cons (.ofRun run)) := by
  have hend := StyleTag.atTag_closings (StyleTag.ofStyle run.style) hrest
  have hopen := StyleTag.readItems_openings run.align (StyleTag.ofStyle run.style) []
  have hclose := StyleTag.readItems_closings run.align (StyleTag.ofStyle run.style) [] rest
  rw [List.append_nil] at hopen hclose
  simp only [printRun, List.append_assoc]
  rw [StyleTag.openTags_eq, StyleTag.closeTags_eq, tokens_alignTag, readItems, hopen,
    tokens_plain_append h.1 h.2 hend.1 hend.2, readItems, hclose, StyleTag.style_ofStyle]
  rfl

theorem atTag_printRuns (runs : List TextRun) : AtTag (runs.flatMap printRun) := by
  cases runs with
  | nil => exact atTag_nil
  | cons run runs =>
    simp only [List.flatMap_cons, printRun, List.append_assoc]
    exact atTag_alignTag run.align _

theorem readItems_printRuns {runs : List TextRun} (h : ∀ run ∈ runs, (Element.text run).Sound)
    (align : Align) : ∃ next, readItems align [] (tokens (runs.flatMap printRun)) =
      .ok ⟨runs.map .ofRun, next, []⟩ := by
  induction runs generalizing align with
  | nil => exact ⟨align, by rw [List.flatMap_nil, tokens]; rfl⟩
  | cons run runs ih =>
    obtain ⟨hrun, hruns⟩ := List.forall_mem_cons.1 h
    obtain ⟨next, hnext⟩ := ih hruns run.align
    refine ⟨next, ?_⟩
    rw [List.flatMap_cons, readItems_printRun hrun (atTag_printRuns runs), hnext]
    rfl

theorem elements_runs {first : List TextRun} {last : TextRun}
    (hfirst : ∀ run ∈ first, run.endsLine = false) (hlast : last.endsLine = true) :
    LineItem.elements ((first ++ [last]).map .ofRun) = (first ++ [last]).map .text := by
  induction first with
  | nil =>
    rcases last with ⟨content, align, style, endsLine⟩
    cases hlast
    rfl
  | cons run first ih =>
    obtain ⟨hrun, hrest⟩ := List.forall_mem_cons.1 hfirst
    rcases run with ⟨content, align, style, endsLine⟩
    cases hrun
    rw [List.cons_append, List.map_cons, List.map_cons, ← ih hrest]
    cases first <;> rfl

theorem finishLine_ofRun {runs : List TextRun} (hne : runs ≠ []) :
    finishLine (runs.map .ofRun) = LineItem.elements (runs.map .ofRun) := by
  have hblock : ¬(runs.map LineItem.ofRun).any LineItem.isBlock = true := by
    rw [List.any_map, List.any_eq_true]
    rintro ⟨run, -, hrun⟩
    cases hrun
  have hitems : ¬(runs.map LineItem.ofRun).isEmpty = true := by simpa using hne
  rw [finishLine, if_neg hblock, if_neg hitems]

theorem parseLine_runs {first : List TextRun} {last : TextRun}
    (h : ∀ run ∈ first ++ [last], (Element.text run).Sound)
    (hfirst : ∀ run ∈ first, run.endsLine = false) (hlast : last.endsLine = true) (align : Align) :
    ∃ next, parseLine align ((first ++ [last]).flatMap printRun) =
      .ok (next, (first ++ [last]).map .text) := by
  obtain ⟨next, hread⟩ := readItems_printRuns h align
  have hfinish : finishLine ((first ++ [last]).map .ofRun) = (first ++ [last]).map .text := by
    rw [finishLine_ofRun (by simp), elements_runs hfirst hlast]
  refine ⟨next, ?_⟩
  rw [parseLine, hread, ok_bind, hfinish]

/-! ### Blocks -/

theorem isTagName_kind (kind : BlockKind) : IsTagName kind.name := by
  cases kind <;> exact ⟨rfl, by decide, rfl⟩

theorem splitAtClosing?_closing {kind : BlockKind} {content : Text}
    (h : ¬HasClosing kind.closing content) :
    splitAtClosing? kind.closing (content ++ kind.closing) = some (content, []) := by
  have hbracket : '<' ∉ '/' :: kind.name ++ ['>'] := by cases kind <;> decide
  have hlower : Text.lower kind.closing = kind.closing := by cases kind <;> rfl
  have hsplit := splitAtClosing?_append hbracket h hlower []
  rw [List.append_nil] at hsplit
  exact hsplit

/-- `parseLine` reads a written block as the element that its attributes and its content make. -/
theorem parseLine_block {align : Align} {kind : BlockKind} {as : List Attribute} {content : Text}
    {e : Element} (has : ∀ a ∈ as, a.Writable) (hkeys : (as.map Attribute.key).Nodup)
    (hcontent : ¬HasClosing kind.closing content)
    (helement : blockElement align kind as content = .ok e) (before : Align) :
    parseLine before (alignTag align ++ openingTag kind.name as ++ content ++ kind.closing) =
      .ok (align, [e]) := by
  have hname := isTagName_kind kind
  have hkind : BlockKind.ofName? kind.name = some kind := by cases kind <;> rfl
  obtain ⟨raw, htag⟩ := readTag_written hname as (content ++ kind.closing)
  simp only [hkind, splitAtClosing?_closing hcontent] at htag
  simp only [parseLine, List.append_assoc]
  rw [tokens_alignTag, tokens_openingTag hname has, htag]
  simp only [readItems, readBlock, parseAttributes_written has hkeys, helement, within, ok_bind,
    tokens]
  rfl

theorem printPicture_eq (p : Picture) :
    printPicture p = alignTag p.align ++ openingTag BlockKind.picture.name [] ++
      p.bitmap.toHex ++ BlockKind.picture.closing := rfl

theorem parseLine_printPicture (p : Picture) (before : Align) :
    parseLine before (printPicture p) = .ok (p.align, [.picture p]) := by
  have hcontent : ¬HasClosing BlockKind.picture.closing p.bitmap.toHex := by
    intro h
    have hmem : '<' ∈ p.bitmap.toHex := h.mem (by decide)
    exact absurd (Hex.isHexDigit_of_mem_encode hmem) (by decide)
  have helement : blockElement p.align .picture [] p.bitmap.toHex = .ok (.picture p) := by
    rw [blockElement, Bitmap.ofHex_toHex]
    rfl
  exact parseLine_block (by simp) (by simp) hcontent helement before

def qrCodeAttributes (q : QrCode) : List Attribute :=
  [⟨"size".toList, Text.ofNat q.moduleSize.toNat⟩]

theorem writable_qrCodeAttributes (q : QrCode) : ∀ a ∈ qrCodeAttributes q, a.Writable := by
  intro a ha
  rw [List.mem_singleton.1 ha]
  exact .of_key (by decide) fun c hc =>
    Attribute.isValueChar_of_isDigit (Text.isDigit_of_mem_toDigits hc)

theorem printQrCode_eq (q : QrCode) :
    printQrCode q = alignTag q.align ++ openingTag BlockKind.qrCode.name (qrCodeAttributes q) ++
      q.content ++ BlockKind.qrCode.closing := by
  simp only [printQrCode, qrCodeAttributes, openingTag, Attribute.written, List.append_assoc,
    List.cons_append, List.flatMap_cons, List.flatMap_nil]
  rfl

theorem qrCodeAttribute_size {size n : UInt8} (h : 0 < n) :
    qrCodeAttribute size ⟨"size".toList, Text.ofNat n.toNat⟩ = .ok n := by
  have htrim : Text.trim (Text.ofNat n.toNat) = Text.ofNat n.toNat :=
    Text.trim_of_not_blank fun c hc => Text.not_isBlank_of_isDigit (Text.isDigit_of_mem_toDigits hc)
  have hpos : decide (0 < n.toNat) = true := decide_eq_true (UInt8.lt_iff_toNat_lt.1 h)
  have hle : n.toNat ≤ 255 := by have := n.toNat_lt; omega
  rw [qrCodeAttribute, if_pos rfl, htrim, Text.nat?_ofNat hle, Option.filter_some, if_pos hpos,
    orFault, Except.map, UInt8.ofNat_toNat]

theorem parseLine_printQrCode {q : QrCode} (h : (Element.qrCode q).Sound) (before : Align) :
    parseLine before (printQrCode q) = .ok (q.align, [.qrCode q]) := by
  have helement : blockElement q.align .qrCode (qrCodeAttributes q) q.content =
      .ok (.qrCode q) := by
    rw [blockElement, qrCodeAttributes, List.foldlM_cons, qrCodeAttribute_size h.1]
    rfl
  rw [printQrCode_eq]
  exact parseLine_block (writable_qrCodeAttributes q) (by simp [qrCodeAttributes]) h.2 helement
    before

theorem trim_toText {x : Single} (h : x.isFinite = true) : Text.trim x.toText = x.toText := by
  refine Text.trim_of_not_blank fun c hc => ?_
  rcases Single.isDigit_of_mem_toText h hc with hdigit | rfl | rfl
  · exact Text.not_isBlank_of_isDigit hdigit
  · decide
  · decide

/-- `positiveLength?` reads `x.toText` exactly if `x` is finite and positive. -/
theorem positiveLength?_toText (x : Single) :
    positiveLength? x.toText = if x.isFinitePositive = true then some x else none := by
  by_cases hfinite : x.isFinite = true
  · rw [positiveLength?, trim_toText hfinite, Single.ofText?_toText hfinite, Option.filter_some]
  · have hnot : ¬x.isFinitePositive = true := fun h => hfinite (Bool.and_eq_true_iff.1 h).1
    rw [if_neg hnot, Single.toText]
    split
    · decide
    · cases x.negative <;> decide

theorem writable_toText {key : Text} (x : Single)
    (hkey : key ≠ [] ∧ (∀ c ∈ key, Attribute.isKeyChar c = true) ∧ Text.lower key = key) :
    Attribute.Writable ⟨key, x.toText⟩ := by
  refine .of_key hkey ?_
  by_cases hfinite : x.isFinite = true
  · intro c hc
    rcases Single.isDigit_of_mem_toText hfinite hc with hdigit | rfl | rfl
    · exact Attribute.isValueChar_of_isDigit hdigit
    · decide
    · decide
  · rw [Single.toText, if_neg hfinite]
    split
    · decide
    · cases x.negative <;> decide

def barcodeAttributes (b : Barcode) : List Attribute :=
  [⟨"type".toList, b.symbology.name⟩, ⟨"height".toList, b.height.toText⟩] ++
    b.width.toList.map (fun width => ⟨"width".toList, width.toText⟩) ++
      [⟨"text".toList, b.textPosition.name⟩]

theorem writable_barcodeAttributes (b : Barcode) : ∀ a ∈ barcodeAttributes b, a.Writable := by
  intro a ha
  simp only [barcodeAttributes, List.cons_append, List.nil_append, List.mem_cons,
    List.mem_append, List.mem_map, Option.mem_toList, List.not_mem_nil, or_false] at ha
  rcases ha with rfl | rfl | ⟨w, -, rfl⟩ | rfl
  · exact .of_key (by decide) (by cases b.symbology <;> decide)
  · exact writable_toText b.height (by decide)
  · exact writable_toText w (by decide)
  · exact .of_key (by decide) (by cases b.textPosition <;> decide)

theorem nodup_barcodeAttributes (b : Barcode) :
    ((barcodeAttributes b).map Attribute.key).Nodup := by
  rcases b with ⟨_, _, _, width, _, _⟩
  cases width with
  | none =>
    show ["type".toList, "height".toList, "text".toList].Nodup
    decide
  | some w =>
    show ["type".toList, "height".toList, "width".toList, "text".toList].Nodup
    decide

section
variable (b : Barcode)

theorem barcodeAttribute_type (symbology : Symbology) :
    barcodeAttribute b ⟨"type".toList, symbology.name⟩ = .ok { b with symbology } := by
  cases symbology <;> rfl

theorem barcodeAttribute_height {x : Single} (h : x.isFinitePositive = true) :
    barcodeAttribute b ⟨"height".toList, x.toText⟩ = .ok { b with height := x } := by
  have hread : barcodeAttribute b ⟨"height".toList, x.toText⟩ =
      (orFault (.invalidLength "height".toList x.toText) (positiveLength? x.toText)).map
        fun height => { b with height } := rfl
  rw [hread, positiveLength?_toText, if_pos h]
  rfl

theorem barcodeAttribute_width {x : Single} (h : x.isFinitePositive = true) :
    barcodeAttribute b ⟨"width".toList, x.toText⟩ = .ok { b with width := some x } := by
  have hread : barcodeAttribute b ⟨"width".toList, x.toText⟩ =
      (orFault (.invalidLength "width".toList x.toText) (positiveLength? x.toText)).map
        fun width => { b with width := some width } := rfl
  rw [hread, positiveLength?_toText, if_pos h]
  rfl

theorem barcodeAttribute_text (textPosition : TextPosition) :
    barcodeAttribute b ⟨"text".toList, textPosition.name⟩ = .ok { b with textPosition } := by
  cases textPosition <;> rfl

end

theorem foldlM_barcodeAttributes {b : Barcode} (h : (Element.barcode b).Sound) :
    (barcodeAttributes b).foldlM barcodeAttribute
      { symbology := .ean13, content := b.content, align := b.align } = .ok b := by
  obtain ⟨-, -, hheight, hwidth⟩ := h
  rcases b with ⟨symbology, content, height, width, textPosition, align⟩
  cases width with
  | none =>
    simp only [barcodeAttributes, Option.toList_none, List.map_nil, List.cons_append,
      List.nil_append, List.foldlM_cons, List.foldlM_nil, barcodeAttribute_type,
      barcodeAttribute_height _ hheight, barcodeAttribute_text, ok_bind]
    rfl
  | some w =>
    simp only [barcodeAttributes, Option.toList_some, List.map_cons, List.map_nil,
      List.cons_append, List.nil_append, List.foldlM_cons, List.foldlM_nil, barcodeAttribute_type,
      barcodeAttribute_height _ hheight, barcodeAttribute_width _ (hwidth w rfl),
      barcodeAttribute_text, ok_bind]
    rfl

theorem printBarcode_eq (b : Barcode) :
    printBarcode b = alignTag b.align ++
      openingTag BlockKind.barcode.name (barcodeAttributes b) ++ b.content ++
        BlockKind.barcode.closing := by
  rcases b with ⟨symbology, content, height, width, textPosition, align⟩
  cases width with
  | none =>
    simp only [printBarcode, barcodeAttributes, openingTag, Attribute.written, List.append_assoc,
      Option.toList_none, List.map_nil, List.cons_append, List.nil_append, List.flatMap_cons,
      List.flatMap_nil]
    rfl
  | some w =>
    simp only [printBarcode, barcodeAttributes, openingTag, Attribute.written, List.append_assoc,
      Option.toList_some, List.map_cons, List.map_nil, List.cons_append, List.nil_append,
      List.flatMap_cons, List.flatMap_nil]
    rfl

theorem parseLine_printBarcode {b : Barcode} (h : (Element.barcode b).Sound) (before : Align) :
    parseLine before (printBarcode b) = .ok (b.align, [.barcode b]) := by
  have helement : blockElement b.align .barcode (barcodeAttributes b) b.content =
      .ok (.barcode b) := by
    rw [blockElement, h.1, foldlM_barcodeAttributes h]
    rfl
  rw [printBarcode_eq]
  exact parseLine_block (writable_barcodeAttributes b) (nodup_barcodeAttributes b) h.2.1 helement
    before

/-! ### Ends of lines -/

theorem getLast?_closeTags (style : TextStyle) :
    (closeTags style).getLast? = if style = {} then none else some '>' := by
  rcases style with ⟨bold, underline, size⟩
  cases bold <;> cases underline <;> cases size <;> rfl

/-- A printed run ends with its text if no style is closed after it. -/
theorem getLast?_printRun {run : TextRun} (h : run.content ≠ []) :
    (printRun run).getLast? = if run.style = {} then run.content.getLast? else some '>' := by
  rw [printRun, List.getLast?_append, getLast?_closeTags]
  split
  · rw [List.getLast?_append, Option.none_or, Option.or_of_isSome]
    exact List.getLast?_isSome.2 h
  · rfl

theorem getLast?_block (align : Align) (tag content : Text) (kind : BlockKind) :
    (alignTag align ++ tag ++ content ++ kind.closing).getLast? = some '>' := by
  have hclosing : kind.closing.getLast? = some '>' := by cases kind <;> rfl
  rw [List.getLast?_append, hclosing, Option.some_or]

/-! ### Control characters -/

theorem visible_alignTag (a : Align) : Text.Visible (alignTag a) := by
  cases a <;> decide

theorem not_mem_alignTag (a : Align) : '\n' ∉ alignTag a := by cases a <;> decide

theorem visible_openTags (style : TextStyle) : Text.Visible (openTags style) := by
  rcases style with ⟨bold, underline, size⟩
  cases bold <;> cases underline <;> cases size <;> decide

theorem visible_closeTags (style : TextStyle) : Text.Visible (closeTags style) := by
  rcases style with ⟨bold, underline, size⟩
  cases bold <;> cases underline <;> cases size <;> decide

theorem visible_openingTag {kind : BlockKind} {as : List Attribute} (has : ∀ a ∈ as, a.Writable) :
    Text.Visible (openingTag kind.name as) := by
  have hname : Text.Visible ('<' :: kind.name) := by cases kind <;> decide
  have hattributes : Text.Visible (as.flatMap Attribute.written) := by
    intro c hc
    obtain ⟨a, ha, hc⟩ := List.mem_flatMap.1 hc
    exact (has a ha).visible c hc
  rw [openingTag, ← List.cons_append, Text.visible_append, Text.visible_append]
  exact ⟨⟨hname, hattributes⟩, by decide⟩

theorem visible_closing (kind : BlockKind) : Text.Visible kind.closing := by
  cases kind <;> decide

/-- A control character in a printed block stands in its content. -/
theorem count_block {kind : BlockKind} {as : List Attribute} (has : ∀ a ∈ as, a.Writable) {c : Char}
    (hc : c.toNat < 32) (align : Align) (content : Text) :
    (alignTag align ++ openingTag kind.name as ++ content ++ kind.closing).count c =
      content.count c := by
  rw [List.count_append, List.count_append, List.count_append,
    (visible_alignTag align).count_eq_zero hc, (visible_openingTag has).count_eq_zero hc,
    (visible_closing kind).count_eq_zero hc]
  omega

/-- The line of a block keeps its end and holds no line feed but those of the content. -/
theorem block_line (align : Align) (kind : BlockKind) {as : List Attribute} {content : Text}
    (has : ∀ a ∈ as, a.Writable) (hcontent : '\n' ∉ content) :
    '\n' ∉ alignTag align ++ openingTag kind.name as ++ content ++ kind.closing ∧
      Text.chomp (alignTag align ++ openingTag kind.name as ++ content ++ kind.closing) =
        alignTag align ++ openingTag kind.name as ++ content ++ kind.closing := by
  constructor
  · rw [← List.count_eq_zero, count_block has (by decide), List.count_eq_zero]
    exact hcontent
  · refine Text.chomp_of_getLast? ?_
    rw [getLast?_block]
    decide

theorem count_printRun {c : Char} (hc : c.toNat < 32) (run : TextRun) :
    (printRun run).count c = run.content.count c := by
  rw [printRun, List.count_append, List.count_append, List.count_append,
    (visible_alignTag _).count_eq_zero hc, (visible_openTags _).count_eq_zero hc,
    (visible_closeTags _).count_eq_zero hc]
  omega

end ReceiptPrinter.Markup

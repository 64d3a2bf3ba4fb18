import ReceiptPrinter.Proofs.Markup.Expressible
import ReceiptPrinter.Proofs.Markup.Written

/-!
# Phrases of a line

A line of text, alignment tags and style tags is written `Phrase` by phrase; names of tags may be in
any letter case, and a font tag may ask for a size. `readItems` reads a stretch of text as one item,
and follows `styleStep` on a tag: it does to the alignment and to the open styles what the tag says,
or fails if the tag closes a style that is not the last one opened.
-/

namespace ReceiptPrinter.Markup

/-- A piece of a line. -/
inductive Phrase where
  | text (content : Text)
  | align (a : Align)
  /-- A tag that opens a style, with what stands between its brackets. -/
  | opening (tag : StyleTag) (inner : Text)
  /-- A tag that closes the last style, which it names. -/
  | closing (name : Text)
  deriving DecidableEq, Repr

/-- White space inside a tag, on one line. -/
def IsGap (gap : Text) : Prop := ∀ c ∈ gap, Text.isBlank c = true ∧ c ≠ '\n' ∧ c ≠ '\r'

/-- What may stand between the brackets of a tag that opens a style. -/
inductive Opens : StyleTag → Text → Prop
  | plain {tag : StyleTag} {name : Text} (hname : Text.lower name = tag.name)
    (hsize : ∀ size, tag = .font size → size = .normal) : Opens tag name
  | sized {size : TextSize} {name gap key before after value rest : Text} {quote : Char}
    (hname : Text.lower name = "font".toList) (hne : gap ≠ []) (hgap : IsGap gap)
    (hkey : Text.lower key = "size".toList) (hbefore : IsGap before) (hafter : IsGap after)
    (hquote : quote = '\'' ∨ quote = '"') (hvalue : Text.lower value = size.name)
    (hrest : IsGap rest) :
    Opens (.font size)
      (name ++ (gap ++ (key ++ (before ++ '=' :: (after ++ quote :: (value ++ quote :: rest))))))

namespace Phrase

def isText : Phrase → Bool
  | .text _ => true
  | _ => false

/-- The alignment that a phrase sets. -/
def align? : Phrase → Option Align
  | .align a => some a
  | _ => none

/-- A phrase as it stands on its line. -/
def written : Phrase → Text
  | .text content => content
  | .align a => alignTag a
  | .opening _ inner => '<' :: inner ++ ['>']
  | .closing name => '<' :: '/' :: name ++ ['>']

/-- What a phrase may be: text holds no bracket that could start a tag and no line ending. -/
def IsWritten : Phrase → Prop
  | .text content => content ≠ [] ∧ ∀ c ∈ content, c ≠ '<' ∧ c ≠ '[' ∧ c ≠ '\n' ∧ c ≠ '\r'
  | .align _ => True
  | .opening tag inner => Opens tag inner
  | .closing name => ∃ tag : StyleTag, Text.lower name = tag.name

end Phrase

def lineText (line : List Phrase) : Text := line.flatMap Phrase.written

@[simp] theorem lineText_append (xs ys : List Phrase) :
    lineText (xs ++ ys) = lineText xs ++ lineText ys := List.flatMap_append

@[simp] theorem lineText_cons (p : Phrase) (line : List Phrase) :
    lineText (p :: line) = p.written ++ lineText line := rfl

/-! ### Letters -/

def IsLetters (s : Text) : Prop := ∀ c ∈ s, c.isAlpha = true

instance (s : Text) : Decidable (IsLetters s) := Text.decidableForallMem s _

theorem isAlpha_of_toLower {c : Char} (h : (Char.toLower c).isAlpha = true) :
    c.isAlpha = true := by
  unfold Char.toLower at h
  split at h
  · next hupper =>
    have hc : c.isUpper = true := decide_eq_true hupper
    show (c.isUpper || c.isLower) = true
    rw [hc, Bool.true_or]
  · exact h

theorem isLetters_of_lower {s t : Text} (h : Text.lower s = t) (ht : IsLetters t) :
    IsLetters s := by
  intro c hc
  refine isAlpha_of_toLower (ht _ ?_)
  rw [← h]
  exact List.mem_map_of_mem hc

theorem isLetters_name (tag : StyleTag) : IsLetters tag.name := by
  rcases tag with _ | _ | size
  · decide
  · decide
  · show IsLetters "font".toList
    decide

theorem isLetters_sizeName (size : TextSize) : IsLetters size.name := by
  cases size <;> decide

theorem isKeyChar_of_isAlpha {c : Char} (h : c.isAlpha = true) :
    Attribute.isKeyChar c = true := by
  show (c.isAlpha || c.isDigit || c == '-' || c == '_') = true
  rw [h, Bool.true_or, Bool.true_or, Bool.true_or]

theorem IsLetters.ne {s : Text} (h : IsLetters s) {c d : Char} (hc : c ∈ s)
    (hd : d.isAlpha = false) : c ≠ d := by
  rintro rfl
  rw [h c hc] at hd
  cases hd

theorem IsLetters.not_mem {s : Text} (h : IsLetters s) {d : Char} (hd : d.isAlpha = false) :
    d ∉ s := fun hc => h.ne hc hd rfl

theorem IsLetters.not_isBlank {s : Text} (h : IsLetters s) {c : Char} (hc : c ∈ s) :
    Text.isBlank c = false :=
  Attribute.not_isBlank_of_isKeyChar (isKeyChar_of_isAlpha (h c hc))

theorem IsGap.not_mem {gap : Text} (h : IsGap gap) {d : Char} (hd : Text.isBlank d = false) :
    d ∉ gap := by
  intro hc
  rw [(h d hc).1] at hd
  cases hd

theorem IsGap.isBlanks {gap : Text} (h : IsGap gap) : Attribute.IsBlanks gap :=
  fun c hc => (h c hc).1

/-! ### The size of a font -/

theorem parseAttributes_nil : parseAttributes [] = .ok [] := by
  rw [parseAttributes, Attribute.readAll]
  rfl

/-- `parseAttributes` reads one attribute with gaps around its parts. -/
theorem parseAttributes_gaps {gap key before after value rest : Text} {quote : Char}
    (hgap : IsGap gap) (hne : key ≠ []) (hkey : IsLetters key) (hbefore : IsGap before)
    (hafter : IsGap after) (hquote : quote = '\'' ∨ quote = '"') (hvalue : IsLetters value)
    (hrest : IsGap rest) :
    parseAttributes (gap ++ (key ++
      (before ++ '=' :: (after ++ quote :: (value ++ quote :: rest))))) =
      .ok [⟨Text.lower key, value⟩] := by
  have hread : Attribute.read (key ++
      (before ++ '=' :: (after ++ quote :: (value ++ quote :: rest)))) =
      .ok (⟨Text.lower key, value⟩, rest) :=
    Attribute.read_blanks hne (fun c hc => isKeyChar_of_isAlpha (hkey c hc)) hbefore.isBlanks
      hafter.isBlanks hquote (hvalue.not_mem (by rcases hquote with rfl | rfl <;> rfl))
  have hstart : Text.trimStart (gap ++ (key ++
      (before ++ '=' :: (after ++ quote :: (value ++ quote :: rest))))) =
      key ++ (before ++ '=' :: (after ++ quote :: (value ++ quote :: rest))) := by
    rw [hgap.isBlanks.trimStart_append]
    refine Text.trimStart_of_head? fun c hc => hkey.not_isBlank ?_
    rw [List.head?_append_of_ne_nil _ hne] at hc
    exact List.mem_of_mem_head? hc
  have hend : Text.trimStart rest = [] := by
    have hall := hrest.isBlanks.trimStart_append []
    rwa [List.append_nil] at hall
  rw [parseAttributes, Attribute.readAll_of_read hstart hread List.not_mem_nil, Attribute.readAll,
    hend]
  rfl

theorem ofName?_of_lower {size : TextSize} {value : Text} (h : Text.lower value = size.name) :
    TextSize.ofName? value = some size := by
  rw [TextSize.ofName?, h]
  cases size <;> rfl

/-! ### Style tags -/

structure StyleTag.Inner (tag : StyleTag) (name attributes : Text) : Prop where
  name_eq : Text.lower name = tag.name
  /-- White space ends the name. -/
  blank : ∀ c ∈ attributes.head?, Text.isBlank c = true
  one_line : ∀ c ∈ attributes, c ≠ '>' ∧ c ≠ '\n' ∧ c ≠ '\r'
  opens : ∃ as, parseAttributes attributes = .ok as ∧ openStyle tag.name as = .ok tag

theorem Opens.exists_inner {tag : StyleTag} {inner : Text} (h : Opens tag inner) :
    ∃ name attributes, inner = name ++ attributes ∧ tag.Inner name attributes := by
  cases h with
  | plain hname hsize =>
    refine ⟨inner, [], (List.append_nil _).symm, hname, by simp, by simp, [], parseAttributes_nil,
      ?_⟩
    rcases tag with _ | _ | size
    · rfl
    · rfl
    · rw [hsize size rfl]
      rfl
  | @sized size name gap key before after value rest quote hname hne hgap hkey hbefore hafter hquote
      hvalue hrest =>
    have hkeyLetters : IsLetters key := isLetters_of_lower hkey (by decide)
    have hvalueLetters : IsLetters value := isLetters_of_lower hvalue (isLetters_sizeName size)
    have hkeyNe : key ≠ [] := by
      rintro rfl
      cases hkey
    refine ⟨name, _, rfl, hname, ?_, ?_, [⟨Text.lower key, value⟩],
      parseAttributes_gaps hgap hkeyNe hkeyLetters hbefore hafter hquote hvalueLetters hrest, ?_⟩
    · intro c hc
      rw [List.head?_append_of_ne_nil _ hne] at hc
      exact (hgap c (List.mem_of_mem_head? hc)).1
    · have hline : ∀ s : Text, IsGap s ∨ IsLetters s → ∀ c ∈ s, c ≠ '>' ∧ c ≠ '\n' ∧ c ≠ '\r' := by
        rintro s (hs | hs) c hc
        · refine ⟨?_, (hs c hc).2⟩
          rintro rfl
          exact hs.not_mem (by decide) hc
        · exact ⟨hs.ne hc rfl, hs.ne hc rfl, hs.ne hc rfl⟩
      have hmark : quote ≠ '>' ∧ quote ≠ '\n' ∧ quote ≠ '\r' := by
        rcases hquote with rfl | rfl <;> decide
      simp only [List.forall_mem_append, List.forall_mem_cons]
      exact ⟨hline _ (.inl hgap), hline _ (.inr hkeyLetters), hline _ (.inl hbefore), by decide,
        hline _ (.inl hafter), hmark, hline _ (.inr hvalueLetters), hmark, hline _ (.inl hrest)⟩
    · rw [hkey]
      show (fontSize [⟨"size".toList, value⟩]).map StyleTag.font = _
      have hsize : fontSize [⟨"size".toList, value⟩] = .ok size := by
        simp only [fontSize, List.foldlM_cons, List.foldlM_nil, if_pos, ofName?_of_lower hvalue,
          orFault, ok_bind]
        rfl
      rw [hsize]
      rfl

/-- `tokens` reads the tag of `Opens tag inner` as one that `openStyle` takes for `tag`. -/
theorem tokens_opening {tag : StyleTag} {inner : Text} (h : Opens tag inner) (after : Text) :
    ∃ attributes raw as, tokens ((Phrase.opening tag inner).written ++ after) =
        .opening tag.name attributes raw :: tokens after ∧
      parseAttributes attributes = .ok as ∧ openStyle tag.name as = .ok tag := by
  obtain ⟨name, attributes, rfl, hname, hblank, hline, as, has, hstyle⟩ := h.exists_inner
  have hletters : IsLetters name := isLetters_of_lower hname (isLetters_name tag)
  obtain ⟨c, s, hcons⟩ : ∃ c s, name = c :: s := by
    cases name with
    | nil => cases tag <;> cases hname
    | cons c s => exact ⟨c, s, rfl⟩
  have hc : c.isAlpha = true := hletters c (by rw [hcons]; exact List.mem_cons_self)
  have hstart : startsTag ('<' :: (name ++ attributes)) = true := by
    rw [hcons]
    show (c.isAlpha || c == '/') = true
    rw [hc, Bool.true_or]
  have hinner : '>' ∉ name ++ attributes := by
    rw [List.mem_append, not_or]
    exact ⟨hletters.not_mem rfl, fun hmem => (hline _ hmem).1 rfl⟩
  have hkind : BlockKind.ofName? (Text.lower name) = none := by
    rw [hname]
    cases tag <;> rfl
  have hread := readTag_append_attributes (by rw [hcons]; exact List.cons_ne_nil c s)
    (fun d hd => ⟨hletters.not_isBlank hd, hletters.ne hd rfl⟩) hblank after
  rw [hkind, hname] at hread
  have htokens := tokens_tag hstart hinner after
  rw [hread] at htokens
  refine ⟨attributes, '<' :: (name ++ attributes) ++ ['>'], as, ?_, has, hstyle⟩
  rw [Phrase.written, List.append_assoc]
  exact htokens

theorem tokens_closingPhrase {tag : StyleTag} {name : Text} (h : Text.lower name = tag.name)
    (after : Text) : ∃ raw, tokens ((Phrase.closing name).written ++ after) =
      .closing tag.name raw :: tokens after := by
  have hletters : IsLetters name := isLetters_of_lower h (isLetters_name tag)
  have htokens := tokens_closingTag (fun c hc => hletters.not_isBlank hc) (hletters.not_mem rfl) after
  rw [h] at htokens
  refine ⟨'<' :: '/' :: name ++ ['>'], ?_⟩
  rw [Phrase.written, List.append_assoc]
  exact htokens

/-! ### Reading phrases -/

/-- What a phrase does to the open styles, the innermost first. -/
def styleStep (tags : List StyleTag) : Phrase → Option (List StyleTag)
  | .opening tag _ => some (tag :: tags)
  | .closing name =>
    match tags with
    | [] => none
    | tag :: outer => if tag.name = Text.lower name then some outer else none
  | _ => some tags

section
variable {p : Phrase} {tags : List StyleTag}

/-- `readItems` follows `styleStep` where that accepts the tag. -/
theorem readItems_of_styleStep {tags' : List StyleTag} (hp : p.isText = false)
    (hwritten : p.IsWritten) (hstep : styleStep tags p = some tags') (a : Align) (rest : Text) :
    readItems a tags (tokens (p.written ++ rest)) =
      readItems (p.align?.getD a) tags' (tokens rest) := by
  cases p with
  | text content => cases hp
  | align b =>
    cases hstep
    rw [Phrase.written, tokens_alignTag, readItems]
    rfl
  | opening tag inner =>
    cases hstep
    obtain ⟨attributes, raw, as, htokens, has, hstyle⟩ := tokens_opening hwritten rest
    rw [htokens, readItems, has]
    simp only [within, ok_bind, hstyle]
    rfl
  | closing name =>
    obtain ⟨tag, hname⟩ := hwritten
    obtain ⟨raw, htokens⟩ := tokens_closingPhrase hname rest
    cases tags with
    | nil => cases hstep
    | cons outermost outer =>
      simp only [styleStep] at hstep
      split at hstep
      · next heq =>
        cases hstep
        rw [htokens, readItems, if_pos (heq.trans hname)]
        rfl
      · cases hstep

/-- `readItems` fails where `styleStep` does not accept the tag. -/
theorem readItems_of_styleStep_eq_none (hwritten : p.IsWritten) (hstep : styleStep tags p = none)
    (a : Align) (rest : Text) :
    ∃ e, readItems a tags (tokens (p.written ++ rest)) = .error e := by
  cases p with
  | text content => cases hstep
  | align b => cases hstep
  | opening tag inner => cases hstep
  | closing name =>
    obtain ⟨tag, hname⟩ := hwritten
    obtain ⟨raw, htokens⟩ := tokens_closingPhrase hname rest
    cases tags with
    | nil => exact ⟨_, by rw [htokens, readItems]⟩
    | cons innermost outer =>
      simp only [styleStep] at hstep
      split at hstep
      · cases hstep
      · next hne =>
        rw [hname] at hne
        exact ⟨_, by rw [htokens, readItems, if_neg hne]⟩

end

theorem atTag_lineText {line : List Phrase} (hnext : ∀ p ∈ line.head?, p.isText = false)
    (hwritten : ∀ p ∈ line, p.IsWritten) : AtTag (lineText line) := by
  cases line with
  | nil => exact atTag_nil
  | cons p line =>
    have hp := hwritten p List.mem_cons_self
    rw [lineText_cons]
    cases p with
    | text content => cases hnext _ rfl
    | align a => exact atTag_alignTag a _
    | opening tag inner =>
      obtain ⟨_, _, _, htokens, -, -⟩ := tokens_opening hp (lineText line)
      refine ⟨?_, by simp [htokens]⟩
      simp [EndsText, Phrase.written]
    | closing name =>
      obtain ⟨tag, hname⟩ := hp
      obtain ⟨_, htokens⟩ := tokens_closingPhrase hname (lineText line)
      refine ⟨?_, by simp [htokens]⟩
      simp [EndsText, Phrase.written]

theorem isPlain_of_not_mem {s : Text} (h : ∀ c ∈ s, c ≠ '<' ∧ c ≠ '[') : isPlain s = true := by
  rw [isPlain_iff_tagFree]
  constructor
  case no_align =>
    intro a hin
    have hbracket : '[' ∈ alignTag a := by cases a <;> decide
    exact (h _ (hin.subset hbracket)).2 rfl
  case no_bracket =>
    intro c _ hin
    exact (h _ (hin.subset List.mem_cons_self)).1 rfl

/-- `readItems` reads a stretch of text as one item. -/
theorem readItems_texts {texts : List Phrase} (hne : texts ≠ [])
    (htexts : ∀ p ∈ texts, p.isText = true) (hwritten : ∀ p ∈ texts, p.IsWritten) {rest : Text}
    (hrest : AtTag rest) (a : Align) (tags : List StyleTag) :
    readItems a tags (tokens (lineText texts ++ rest)) =
      readItems a tags (tokens rest) >>= fun reading =>
        .ok (reading.cons (.text (lineText texts) a (StyleTag.style tags))) := by
  have hplain : ∀ c ∈ lineText texts, c ≠ '<' ∧ c ≠ '[' := by
    intro c hc
    obtain ⟨p, hp, hc⟩ := List.mem_flatMap.1 hc
    cases p with
    | text content =>
      obtain ⟨hlt, hbracket, -⟩ := (hwritten _ hp).2 c hc
      exact ⟨hlt, hbracket⟩
    | align | opening | closing => cases htexts _ hp
  have htextNe : lineText texts ≠ [] := by
    obtain ⟨p, texts, rfl⟩ := List.exists_cons_of_ne_nil hne
    rw [lineText_cons]
    cases p with
    | text content => exact List.append_ne_nil_of_left_ne_nil (hwritten _ List.mem_cons_self).1 _
    | align | opening | closing => cases htexts _ List.mem_cons_self
  rw [tokens_plain_append htextNe (isPlain_of_not_mem hplain) hrest.1 hrest.2, readItems]
  rfl

theorem not_mem_lineText {line : List Phrase} (hwritten : ∀ p ∈ line, p.IsWritten) :
    '\n' ∉ lineText line ∧ '\r' ∉ lineText line := by
  have hall : ∀ c ∈ lineText line, c ≠ '\n' ∧ c ≠ '\r' := by
    intro c hc
    obtain ⟨p, hp, hc⟩ := List.mem_flatMap.1 hc
    have hpw := hwritten p hp
    have hbracket : c = '<' ∨ c = '>' ∨ c = '/' → c ≠ '\n' ∧ c ≠ '\r' := by
      rintro (rfl | rfl | rfl) <;> decide
    cases p with
    | text content => exact (hpw.2 c hc).2.2
    | align a =>
      have hnone : ∀ c ∈ alignTag a, c ≠ '\n' ∧ c ≠ '\r' := by cases a <;> decide
      exact hnone c hc
    | opening tag inner =>
      obtain ⟨name, attributes, rfl, hname, -, hline, -⟩ := hpw.exists_inner
      have hletters : IsLetters name := isLetters_of_lower hname (isLetters_name tag)
      simp only [Phrase.written, List.cons_append, List.mem_cons, List.mem_append,
        List.not_mem_nil, or_false] at hc
      rcases hc with hc | (hc | hc) | hc
      · exact hbracket (.inl hc)
      · exact ⟨hletters.ne hc rfl, hletters.ne hc rfl⟩
      · exact (hline c hc).2
      · exact hbracket (.inr (.inl hc))
    | closing name =>
      obtain ⟨tag, hname⟩ := hpw
      have hletters : IsLetters name := isLetters_of_lower hname (isLetters_name tag)
      simp only [Phrase.written, List.cons_append, List.mem_cons, List.mem_append,
        List.not_mem_nil, or_false] at hc
      rcases hc with hc | hc | hc | hc
      · exact hbracket (.inl hc)
      · exact hbracket (.inr (.inr hc))
      · exact ⟨hletters.ne hc rfl, hletters.ne hc rfl⟩
      · exact hbracket (.inr (.inl hc))
  exact ⟨fun hc => (hall _ hc).1 rfl, fun hc => (hall _ hc).2 rfl⟩

end ReceiptPrinter.Markup

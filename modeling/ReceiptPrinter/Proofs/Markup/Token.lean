import Mathlib.Logic.Basic
import ReceiptPrinter.Markup.Token
import ReceiptPrinter.Proofs.Text.Lines

/-!
# Tokens of a line

A text is plain (`isPlain`) if no tag starts in it. Every token of a line is `Sound`: a stretch of
text is plain and not empty, the content of a block holds no closing tag of its own. The contents of
the tokens are a part of the line in order, and a plain text before a tag is one token.
-/

namespace ReceiptPrinter.Markup

/-! ### Where tags start -/

/-- Whether no tag starts anywhere in a text. -/
def isPlain : Text → Bool
  | [] => true
  | c :: s => (readAlign? (c :: s)).isNone && !startsTag (c :: s) && isPlain s

theorem isPlain_cons {c : Char} {s : Text} :
    isPlain (c :: s) = true ↔
      readAlign? (c :: s) = none ∧ startsTag (c :: s) = false ∧ isPlain s = true := by
  simp [isPlain, and_assoc]

theorem readAlign?_eq_some_iff {s rest : Text} {a : Align} :
    readAlign? s = some (a, rest) ↔ s = alignTag a ++ rest := by
  constructor
  · intro h
    unfold readAlign? at h
    split at h <;> cases h <;> rfl
  · rintro rfl
    cases a <;> rfl

theorem readAlign?_eq_none_of_isPrefix {s t : Text} (h : s <+: t) (ht : readAlign? t = none) :
    readAlign? s = none := by
  obtain ⟨u, rfl⟩ := h
  cases hs : readAlign? s with
  | none => rfl
  | some p =>
    obtain ⟨a, rest⟩ := p
    rw [readAlign?_eq_some_iff] at hs
    rw [readAlign?_eq_some_iff.2 (by rw [hs, List.append_assoc])] at ht
    cases ht

theorem startsTag_eq_false_of_isPrefix {s t : Text} (h : s <+: t) (ht : startsTag t = false) :
    startsTag s = false := by
  obtain ⟨u, rfl⟩ := h
  unfold startsTag at ht ⊢
  split
  · simpa using ht
  · rfl

/-- What may follow text: the end of the line or a tag. -/
def EndsText (rest : Text) : Prop := ∀ c ∈ rest.head?, c = '[' ∨ c = '<'

theorem endsText_nil : EndsText [] := by simp [EndsText]

theorem endsText_alignTag (a : Align) (rest : Text) : EndsText (alignTag a ++ rest) := by
  cases a <;> simp [EndsText, alignTag]

theorem mem_tail_alignTag (a : Align) : ∀ c ∈ (alignTag a).tail, c ≠ '[' ∧ c ≠ '<' := by
  cases a <;> decide

/-- No tag begins in a text and ends after it. -/
theorem readAlign?_append {s rest : Text} (hne : s ≠ []) (hs : readAlign? s = none)
    (hrest : EndsText rest) : readAlign? (s ++ rest) = none := by
  cases h : readAlign? (s ++ rest) with
  | none => rfl
  | some p =>
    obtain ⟨a, after⟩ := p
    rw [readAlign?_eq_some_iff] at h
    obtain ⟨u, hu, hafter⟩ | ⟨u, hu, hafter⟩ := List.append_eq_append_iff.1 h
    · -- the tag goes on after `s`, where only a bracket may stand
      cases u with
      | nil =>
        rw [List.append_nil] at hu
        have hwhole : s = alignTag a ++ [] := by rw [← hu, List.append_nil]
        rw [readAlign?_eq_some_iff.2 hwhole] at hs
        cases hs
      | cons c u =>
        have hc : c = '[' ∨ c = '<' := hrest c (by rw [hafter]; simp)
        have hmem : c ∈ (alignTag a).tail := by
          obtain ⟨d, s, rfl⟩ := List.exists_cons_of_ne_nil hne
          rw [hu]
          simp
        have hne := mem_tail_alignTag a c hmem
        exact (hc.elim hne.1 hne.2).elim
    · rw [readAlign?_eq_some_iff.2 hu] at hs
      cases hs

theorem startsTag_append {s rest : Text} (hne : s ≠ []) (hs : startsTag s = false)
    (hrest : EndsText rest) : startsTag (s ++ rest) = false := by
  match s, hne with
  | [c], _ =>
    cases rest with
    | nil => exact hs
    | cons d rest =>
      have hd : d = '[' ∨ d = '<' := hrest d (by simp)
      rw [List.singleton_append]
      unfold startsTag
      split
      · next heq =>
        cases heq
        rcases hd with rfl | rfl <;> decide
      · rfl
  | c :: d :: s, _ =>
    rw [List.cons_append, List.cons_append]
    unfold startsTag at hs ⊢
    split
    · next heq =>
      cases heq
      simpa using hs
    · rfl

/-! ### Closing tags inside a text -/

/-- Whether `closing` occurs in `s`, in any letter case. -/
def HasClosing (closing s : Text) : Prop := ∃ t, t <:+: s ∧ Text.lower t = closing

theorem HasClosing.mono {closing s t : Text} (h : HasClosing closing s) (hst : s <:+: t) :
    HasClosing closing t := by
  obtain ⟨u, hu, hlower⟩ := h
  exact ⟨u, hu.trans hst, hlower⟩

theorem HasClosing.mem {c : Char} {closing s : Text} (h : HasClosing (c :: closing) s)
    (hc : c.toNat < 97) : c ∈ s := by
  obtain ⟨t, ht, hlower⟩ := h
  cases t with
  | nil => cases hlower
  | cons d t =>
    have hd : Char.toLower d = c := (List.cons.inj hlower).1
    exact ht.subset (by rw [Text.eq_of_toLower_eq hd hc]; simp)

theorem splitAtClosing?_eq_none_iff {closing s : Text} (hne : closing ≠ []) :
    splitAtClosing? closing s = none ↔ ¬HasClosing closing s := by
  induction s with
  | nil =>
    simp only [splitAtClosing?, HasClosing, List.infix_nil, true_iff, not_exists, not_and]
    rintro t rfl hlower
    exact hne hlower.symm
  | cons c s ih =>
    unfold splitAtClosing?
    split
    · next htake =>
      simp only [reduceCtorEq, false_iff, not_not]
      exact ⟨_, (List.take_prefix _ _).isInfix, htake⟩
    · next htake =>
      rw [Option.map_eq_none_iff, ih, not_iff_not]
      constructor
      · exact fun h => h.mono (List.suffix_cons c s).isInfix
      · rintro ⟨t, ht, hlower⟩
        rcases List.infix_cons_iff.1 ht with hpre | hin
        · refine absurd ?_ htake
          have hlen : closing.length = t.length := by rw [← hlower, Text.length_lower]
          rw [hlen, ← List.prefix_iff_eq_take.1 hpre, hlower]
        · exact ⟨t, hin, hlower⟩

/-- The text before the first closing tag holds none, and together with what follows the tag it is a
part of the text. -/
theorem splitAtClosing?_eq_some {closing s content rest : Text} (hne : closing ≠ [])
    (h : splitAtClosing? closing s = some (content, rest)) :
    content <+: s ∧ (content ++ rest).Sublist s ∧ ¬HasClosing closing content := by
  induction s generalizing content with
  | nil => simp [splitAtClosing?] at h
  | cons c s ih =>
    unfold splitAtClosing? at h
    split at h
    · simp only [Option.some.injEq, Prod.mk.injEq] at h
      obtain ⟨rfl, rfl⟩ := h
      refine ⟨List.nil_prefix, List.drop_sublist _ _, ?_⟩
      rw [← splitAtClosing?_eq_none_iff hne]
      rfl
    · next htake =>
      obtain ⟨⟨content', rest'⟩, hs, heq⟩ := Option.map_eq_some_iff.1 h
      simp only [Prod.mk.injEq] at heq
      obtain ⟨rfl, rfl⟩ := heq
      obtain ⟨hpre, hsub, hnot⟩ := ih hs
      refine ⟨List.cons_prefix_cons.2 ⟨rfl, hpre⟩, hsub.cons_cons c, ?_⟩
      rw [← splitAtClosing?_eq_none_iff hne]
      unfold splitAtClosing?
      rw [(splitAtClosing?_eq_none_iff hne).2 hnot, if_neg, Option.map_none]
      intro hlower
      -- a tag at the start of the content would be one at the start of the text
      have hlen := congrArg List.length hlower
      rw [Text.length_lower, List.length_take] at hlen
      obtain ⟨u, hu⟩ := hpre
      refine htake ?_
      rw [← hu, ← List.cons_append, List.take_append_of_le_length (by omega), hlower]

/-- A closing tag does not begin inside a text that holds none and go on past its end, if a bracket
follows the text: the bracket would stand inside what was read as a tag. -/
theorem lower_take_append_ne {closing s t : Text} {d : Char} (hs : s ≠ []) (hne : '<' ∉ closing)
    (h : ¬HasClosing ('<' :: closing) s) (hd : Char.toLower d = '<') :
    Text.lower ((s ++ d :: t).take ('<' :: closing).length) ≠ '<' :: closing := by
  intro hlower
  by_cases hle : ('<' :: closing).length ≤ s.length
  · rw [List.take_append_of_le_length hle] at hlower
    exact h ⟨_, (List.take_prefix _ _).isInfix, hlower⟩
  · obtain ⟨c, s, rfl⟩ := List.exists_cons_of_ne_nil hs
    have hget := congrArg (fun t : Text => t[s.length + 1]?) hlower
    simp only [Text.lower, List.getElem?_map] at hget
    rw [List.getElem?_take_of_lt (by simp at hle ⊢; omega), List.cons_append,
      List.getElem?_cons_succ, List.getElem?_append_right (Nat.le_refl _)] at hget
    simp only [Nat.sub_self, List.getElem?_cons_zero, Option.map_some, hd,
      List.getElem?_cons_succ] at hget
    exact hne (List.mem_of_getElem? hget.symm)

/-- A closing tag is found after a text that holds none: it cannot begin inside the text. -/
theorem splitAtClosing?_append {closing content : Text} (hne : '<' ∉ closing)
    (h : ¬HasClosing ('<' :: closing) content) {tag : Text}
    (htag : Text.lower tag = '<' :: closing) (rest : Text) :
    splitAtClosing? ('<' :: closing) (content ++ tag ++ rest) = some (content, rest) := by
  have hlen : tag.length = ('<' :: closing).length := by rw [← htag, Text.length_lower]
  obtain ⟨d, tag, rfl⟩ := List.exists_cons_of_ne_nil (l := tag) (by rintro rfl; cases htag)
  induction content with
  | nil =>
    simp only [List.nil_append, List.cons_append, splitAtClosing?]
    rw [← List.cons_append, ← hlen, List.take_left, if_pos htag, List.drop_left]
  | cons c content ih =>
    have hnot : ¬HasClosing ('<' :: closing) content := fun hc =>
      h (hc.mono (List.suffix_cons c content).isInfix)
    have htake := lower_take_append_ne (t := tag ++ rest) (List.cons_ne_nil c content) hne h
      (List.cons.inj htag).1
    simp only [List.append_assoc, List.cons_append] at htake ih ⊢
    rw [splitAtClosing?, if_neg htake, ih hnot, Option.map_some]

/-! ### What the tokens of a line hold -/

/-- The text of a token that goes into the receipt. -/
def Token.content : Token → Text
  | .text content => content
  | .block _ _ _ (some content) => content
  | _ => []

/-- The tokens that reading a line may give. -/
def Token.Sound : Token → Prop
  | .text content => content ≠ [] ∧ isPlain content = true
  | .block kind _ _ (some content) => ¬HasClosing kind.closing content
  | _ => True

theorem closing_ne_nil (kind : BlockKind) : kind.closing ≠ [] := by
  cases kind <;> decide

theorem readTag_sound (inner after : Text) :
    (readTag inner after).1.Sound ∧
      ((readTag inner after).1.content ++ (readTag inner after).2).Sublist after := by
  unfold readTag
  simp only
  split
  · exact ⟨trivial, List.Sublist.refl _⟩
  · split
    · exact ⟨trivial, List.Sublist.refl _⟩
    · next kind _ =>
      split
      · next content rest h =>
        obtain ⟨-, hsub, hnot⟩ := splitAtClosing?_eq_some (closing_ne_nil kind) h
        exact ⟨hnot, hsub⟩
      · exact ⟨trivial, List.nil_sublist _⟩

theorem readTag_ne_text (inner after t : Text) : (readTag inner after).1 ≠ .text t := by
  unfold readTag
  simp only
  split
  · simp
  · split
    · simp
    · split <;> simp

theorem tokens_cons_text {c : Char} {rest : Text} (halign : readAlign? (c :: rest) = none)
    (htag : startsTag (c :: rest) = false) : tokens (c :: rest) = consText c (tokens rest) := by
  rw [tokens]
  split
  · next h => rw [halign] at h; cases h
  · simp [htag]

theorem prefix_of_tokens_eq {s t : Text} {toks : List Token} (h : tokens s = .text t :: toks) :
    t <+: s := by
  induction s generalizing t toks with
  | nil => simp [tokens] at h
  | cons c rest ih =>
    rw [tokens] at h
    split at h
    · cases h
    · split at h
      · split at h
        · cases h
        · exact absurd (List.cons.inj h).1 (readTag_ne_text _ _ _)
      · unfold consText at h
        split at h
        · next s' toks' hrest =>
          simp only [List.cons.injEq, Token.text.injEq] at h
          rw [← h.1]
          exact List.cons_prefix_cons.2 ⟨rfl, ih hrest⟩
        · simp only [List.cons.injEq, Token.text.injEq] at h
          rw [← h.1]
          exact List.cons_prefix_cons.2 ⟨rfl, List.nil_prefix⟩

theorem sound_of_mem_tokens {s : Text} {tok : Token} (h : tok ∈ tokens s) : tok.Sound := by
  fun_induction tokens s generalizing tok with
  | case1 => cases h
  | case2 c rest a rest' hread ih =>
    rcases List.mem_cons.1 h with rfl | h
    · trivial
    · exact ih h
  | case3 c rest hread htag hdrop =>
    rw [List.mem_singleton.1 h]
    trivial
  | case4 c rest hread htag d after hdrop ih =>
    rcases List.mem_cons.1 h with rfl | h
    · exact (readTag_sound _ _).1
    · exact ih h
  | case5 c rest hread htag ih =>
    have htag := Bool.eq_false_iff.2 htag
    unfold consText at h
    split at h
    · next t toks hrest =>
      rcases List.mem_cons.1 h with rfl | h
      · -- what starts in the text starts in the line
        have hpre : c :: t <+: c :: rest :=
          List.cons_prefix_cons.2 ⟨rfl, prefix_of_tokens_eq hrest⟩
        have hmem : Token.text t ∈ tokens rest := by simp [hrest]
        have hplain := (ih hmem).2
        exact ⟨by simp, isPlain_cons.2 ⟨readAlign?_eq_none_of_isPrefix hpre hread,
          startsTag_eq_false_of_isPrefix hpre htag, hplain⟩⟩
      · exact ih (by simp [hrest, h])
    · rcases List.mem_cons.1 h with rfl | h
      · have hpre : [c] <+: c :: rest := List.cons_prefix_cons.2 ⟨rfl, List.nil_prefix⟩
        exact ⟨by simp, isPlain_cons.2 ⟨readAlign?_eq_none_of_isPrefix hpre hread,
          startsTag_eq_false_of_isPrefix hpre htag, rfl⟩⟩
      · exact ih h

/-- The contents of the tokens are a part of the line, in order. -/
theorem contents_tokens_sublist (s : Text) :
    ((tokens s).flatMap Token.content).Sublist s := by
  fun_induction tokens s with
  | case1 => exact List.nil_sublist _
  | case2 c rest a rest' hread ih =>
    rw [readAlign?_eq_some_iff] at hread
    rw [hread, List.flatMap_cons]
    exact ih.trans (List.sublist_append_right _ _)
  | case3 => exact List.nil_sublist _
  | case4 c rest hread htag d after hdrop ih =>
    rw [List.flatMap_cons]
    have hafter : after.Sublist rest := by
      have hd := List.dropWhile_sublist (l := rest) (· != '>')
      rw [hdrop] at hd
      exact (List.sublist_cons_self d after).trans hd
    exact ((((List.Sublist.refl _).append ih).trans (readTag_sound _ _).2).trans hafter).cons c
  | case5 c rest hread htag ih =>
    unfold consText
    split
    · next t toks hrest =>
      rw [hrest, List.flatMap_cons] at ih
      exact ih.cons_cons c
    · exact ih.cons_cons c

/-! ### Tokens of tags and of text before them -/

theorem tokens_alignTag (a : Align) (rest : Text) :
    tokens (alignTag a ++ rest) = .align a :: tokens rest := by
  have hread := readAlign?_eq_some_iff.2 (rfl : alignTag a ++ rest = alignTag a ++ rest)
  obtain ⟨c, s, hs⟩ : ∃ c s, alignTag a ++ rest = c :: s := by
    cases a <;> exact ⟨_, _, rfl⟩
  rw [hs] at hread ⊢
  rw [tokens]
  split
  · next h =>
    rw [hread] at h
    cases h
    rfl
  · next h => rw [hread] at h; cases h

theorem startsTag_append_of_startsTag {s : Text} (h : startsTag s = true) (t : Text) :
    startsTag (s ++ t) = true := by
  unfold startsTag at h
  split at h
  · exact h
  · cases h

theorem startsTag_inner {inner after : Text} {c : Char} (hc : (c.isAlpha || c == '/') = false)
    (h : startsTag ('<' :: inner ++ c :: after) = true) : startsTag ('<' :: inner) = true := by
  cases inner with
  | nil =>
    have hstart : (c.isAlpha || c == '/') = true := h
    rw [hc] at hstart
    cases hstart
  | cons d inner => exact h

theorem eq_of_startsTag {c : Char} {s : Text} (h : startsTag (c :: s) = true) : c = '<' := by
  unfold startsTag at h
  split at h
  · next heq => exact (List.cons.inj heq).1
  · cases h

theorem readAlign?_of_startsTag {s : Text} (h : startsTag s = true) : readAlign? s = none := by
  unfold startsTag at h
  split at h
  · rfl
  · cases h

theorem tokens_of_dropWhile_eq_nil {c : Char} {rest : Text} (htag : startsTag (c :: rest) = true)
    (hdrop : rest.dropWhile (· != '>') = []) :
    tokens (c :: rest) = [.unterminated (c :: rest)] := by
  have hread := readAlign?_of_startsTag htag
  rw [tokens]
  split
  · next h => rw [hread] at h; cases h
  · rw [if_pos htag]
    split
    · rfl
    · next h => rw [hdrop] at h; cases h

theorem tokens_of_dropWhile_eq_cons {c d : Char} {rest after : Text}
    (htag : startsTag (c :: rest) = true) (hdrop : rest.dropWhile (· != '>') = d :: after) :
    tokens (c :: rest) = (readTag (rest.takeWhile (· != '>')) after).1 ::
      tokens (readTag (rest.takeWhile (· != '>')) after).2 := by
  have hread := readAlign?_of_startsTag htag
  rw [tokens]
  split
  · next h => rw [hread] at h; cases h
  · rw [if_pos htag]
    split
    · next h => rw [hdrop] at h; cases h
    · next h =>
      rw [hdrop] at h
      cases h
      rfl

theorem tokens_tag {inner : Text} (hstart : startsTag ('<' :: inner) = true) (hinner : '>' ∉ inner)
    (after : Text) : tokens ('<' :: inner ++ '>' :: after) =
      (readTag inner after).1 :: tokens (readTag inner after).2 := by
  have htag : startsTag ('<' :: (inner ++ '>' :: after)) = true :=
    startsTag_append_of_startsTag hstart ('>' :: after)
  have hp : ∀ c ∈ inner, (c != '>') = true := fun c hc => by
    rw [bne_iff_ne]
    rintro rfl
    exact hinner hc
  have hdrop : (inner ++ '>' :: after).dropWhile (· != '>') = '>' :: after := by
    rw [List.dropWhile_append_of_pos hp]
    rfl
  have htake : (inner ++ '>' :: after).takeWhile (· != '>') = inner := by
    rw [List.takeWhile_append_of_pos hp]
    simp
  rw [List.cons_append, tokens_of_dropWhile_eq_cons htag hdrop, htake]

/-- Plain text is one token if the line ends or a tag follows. -/
theorem tokens_plain_append {s rest : Text} (hne : s ≠ []) (hs : isPlain s = true)
    (hrest : EndsText rest) (htok : ∀ t toks, tokens rest ≠ .text t :: toks) :
    tokens (s ++ rest) = .text s :: tokens rest := by
  induction s with
  | nil => exact absurd rfl hne
  | cons c s ih =>
    obtain ⟨halign, htag, hplain⟩ := isPlain_cons.1 hs
    have hcons : tokens (c :: (s ++ rest)) = consText c (tokens (s ++ rest)) :=
      tokens_cons_text (readAlign?_append (by simp) halign hrest)
        (startsTag_append (by simp) htag hrest)
    rw [List.cons_append, hcons]
    cases s with
    | nil =>
      unfold consText
      split
      · next h => exact absurd h (htok _ _)
      · rfl
    | cons d s =>
      rw [ih (by simp) hplain]
      rfl

end ReceiptPrinter.Markup

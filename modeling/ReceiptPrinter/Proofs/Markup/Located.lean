import Mathlib.Data.List.Basic
import ReceiptPrinter.Markup.Parser
import ReceiptPrinter.Proofs.Except
import ReceiptPrinter.Proofs.Markup.Token

/-!
# Where markup is wrong

An error is found in one line: the lines before it can be read, and what follows it is not looked
at. The piece that an error names is a tag as written, a block from its tag to its end, the rest of
the line or all of it. Of a block the closing tag is named in lower case, so a piece is a part of
its line up to letter case. An error stays when lines are added, and is `Located` at the one line
from which on the markup cannot be read, which holds its piece.
-/

namespace ReceiptPrinter

namespace Text

/-- Whether `s` stands in `t` up to the case of ASCII letters. -/
def StandsIn (s t : Text) : Prop := ∃ part, part <:+: t ∧ lower part = lower s

theorem StandsIn.of_isInfix {s t : Text} (h : s <:+: t) : StandsIn s t := ⟨s, h, rfl⟩

theorem StandsIn.mono {s t u : Text} (h : StandsIn s t) (htu : t <:+: u) : StandsIn s u := by
  obtain ⟨part, hpart, hlower⟩ := h
  exact ⟨part, hpart.trans htu, hlower⟩

end Text

namespace Markup

/-! ### Where tokens stand -/

/-- Whether the pieces of `line` that a token may be blamed with stand in it. -/
def Token.StandsIn (line : Text) : Token → Prop
  | .text _ | .align _ => True
  | .opening _ _ raw | .closing _ raw => raw <:+: line
  | .block kind _ raw content => raw <:+: line ∧
      ∀ inside ∈ content, Text.StandsIn (raw ++ inside ++ kind.closing) line
  | .unterminated rest => rest <:+: line

theorem Token.StandsIn.mono {tok : Token} {s t : Text} (h : tok.StandsIn s) (hst : s <:+: t) :
    tok.StandsIn t := by
  cases tok with
  | text content => trivial
  | align a => trivial
  | opening name attributes raw => exact h.trans hst
  | closing name raw => exact h.trans hst
  | block kind attributes raw content =>
    exact ⟨h.1.trans hst, fun inside hinside => (h.2 inside hinside).mono hst⟩
  | unterminated rest => exact h.trans hst

theorem lower_closing (kind : BlockKind) : Text.lower kind.closing = kind.closing := by
  cases kind <;> decide

theorem exists_tag_of_splitAtClosing? {closing s content rest : Text}
    (h : splitAtClosing? closing s = some (content, rest)) :
    ∃ tag, Text.lower tag = closing ∧ content ++ tag ++ rest = s := by
  induction s generalizing content with
  | nil => cases h
  | cons c s ih =>
    unfold splitAtClosing? at h
    split at h
    · next htake =>
      cases h
      exact ⟨_, htake, List.take_append_drop _ _⟩
    · obtain ⟨⟨content', rest'⟩, hs, heq⟩ := Option.map_eq_some_iff.1 h
      cases heq
      obtain ⟨tag, htag, rfl⟩ := ih hs
      exact ⟨tag, htag, rfl⟩

theorem readTag_standsIn (inner after : Text) :
    (readTag inner after).1.StandsIn ('<' :: inner ++ '>' :: after) ∧
      (readTag inner after).2 <:+ after := by
  have hraw : '<' :: inner ++ ['>'] <:+: '<' :: inner ++ '>' :: after := by
    refine ⟨[], after, ?_⟩
    simp
  unfold readTag
  simp only
  split
  · exact ⟨hraw, List.suffix_rfl⟩
  · split
    · exact ⟨hraw, List.suffix_rfl⟩
    · next kind _ =>
      split
      · next content rest hsplit =>
        obtain ⟨tag, htag, rfl⟩ := exists_tag_of_splitAtClosing? hsplit
        refine ⟨⟨hraw, fun inside hinside => ?_⟩, List.suffix_append _ _⟩
        cases hinside
        refine ⟨'<' :: inner ++ ['>'] ++ content ++ tag, ⟨[], rest, by simp⟩, ?_⟩
        have hclosing : Text.lower tag = Text.lower kind.closing := by rw [htag, lower_closing]
        unfold Text.lower at hclosing ⊢
        rw [List.map_append, hclosing, ← List.map_append]
      · exact ⟨⟨hraw, fun inside hinside => by cases hinside⟩, List.nil_suffix⟩

theorem standsIn_of_mem_tokens {s : Text} {tok : Token} (h : tok ∈ tokens s) : tok.StandsIn s := by
  fun_induction tokens s generalizing tok with
  | case1 => cases h
  | case2 c rest a rest' hread ih =>
    rcases List.mem_cons.1 h with rfl | h
    · trivial
    · rw [readAlign?_eq_some_iff.1 hread]
      exact (ih h).mono (List.suffix_append _ _).isInfix
  | case3 c rest hread htag hdrop =>
    rw [List.mem_singleton.1 h]
    exact List.infix_rfl
  | case4 c rest hread htag d after hdrop ih =>
    have hafter : rest.dropWhile (· != '>') = '>' :: after := by
      have hnot := List.head?_dropWhile_not (· != '>') rest
      rw [hdrop] at hnot ⊢
      rw [show d = '>' by simpa using hnot]
    have hline : '<' :: rest.takeWhile (· != '>') ++ '>' :: after = c :: rest := by
      rw [eq_of_startsTag htag, ← hafter, List.cons_append, List.takeWhile_append_dropWhile]
    obtain ⟨htok, hrest⟩ := readTag_standsIn (rest.takeWhile (· != '>')) after
    rw [← hline]
    rcases List.mem_cons.1 h with rfl | h
    · exact htok
    · refine (ih h).mono (hrest.trans ?_).isInfix
      exact (List.suffix_cons '>' after).trans (List.suffix_append _ _)
  | case5 c rest hread htag ih =>
    have hrest : rest <:+: c :: rest := (List.suffix_cons c rest).isInfix
    unfold consText at h
    split at h
    · next t toks htoks =>
      rcases List.mem_cons.1 h with rfl | h
      · trivial
      · exact (ih (by rw [htoks]; exact List.mem_cons_of_mem _ h)).mono hrest
    · rcases List.mem_cons.1 h with rfl | h
      · trivial
      · exact (ih h).mono hrest

/-! ### Errors of a line -/

theorem fragment_of_within {α : Type} {fragment : Text} {x : Except Fault α} {e : Error}
    (h : within fragment x = .error e) : e.fragment = fragment := by
  cases x with
  | ok a => cases h
  | error fault =>
    cases h
    rfl

theorem standsIn_of_readBlock {line : Text} {align : Align} {styles : List StyleTag}
    {kind : BlockKind} {attributes raw : Text} {content : Option Text} {e : Error}
    (htok : (Token.block kind attributes raw content).StandsIn line)
    (h : readBlock align styles kind attributes raw content = .error e) :
    Text.StandsIn e.fragment line := by
  have hraw : Text.StandsIn raw line := .of_isInfix htok.1
  obtain h | ⟨as, -, h⟩ := bind_eq_error_iff.1 h
  · rw [fragment_of_within h]
    exact hraw
  · cases styles with
    | cons style styles =>
      cases h
      exact hraw
    | nil =>
      cases content with
      | none =>
        cases h
        exact hraw
      | some inside =>
        rw [fragment_of_within h]
        exact htok.2 inside rfl

theorem standsIn_of_readItems {line : Text} {align : Align} {styles : List StyleTag}
    {toks : List Token} {e : Error} (htoks : ∀ tok ∈ toks, tok.StandsIn line)
    (h : readItems align styles toks = .error e) : Text.StandsIn e.fragment line := by
  induction toks generalizing align styles with
  | nil => cases h
  | cons tok toks ih =>
    obtain ⟨htok, hrest⟩ := List.forall_mem_cons.1 htoks
    cases tok with
    | text content =>
      obtain h | ⟨reading, -, h⟩ := bind_eq_error_iff.1 h
      · exact ih hrest h
      · cases h
    | align a => exact ih hrest h
    | closing name raw =>
      unfold readItems at h
      split at h
      · cases h
        exact .of_isInfix htok
      · split at h
        · exact ih hrest h
        · cases h
          exact .of_isInfix htok
    | opening name attributes raw =>
      obtain h | ⟨as, -, h⟩ := bind_eq_error_iff.1 h
      · rw [fragment_of_within h]
        exact .of_isInfix htok
      · obtain h | ⟨style, -, h⟩ := bind_eq_error_iff.1 h
        · rw [fragment_of_within h]
          exact .of_isInfix htok
        · exact ih hrest h
    | block kind attributes raw content =>
      obtain h | ⟨element, -, h⟩ := bind_eq_error_iff.1 h
      · exact standsIn_of_readBlock htok h
      · obtain h | ⟨reading, -, h⟩ := bind_eq_error_iff.1 h
        · exact ih hrest h
        · cases h
    | unterminated rest =>
      cases h
      exact .of_isInfix htok

theorem standsIn_of_parseLine {align : Align} {line : Text} {e : Error}
    (h : parseLine align line = .error e) : Text.StandsIn e.fragment line := by
  obtain h | ⟨reading, -, h⟩ := bind_eq_error_iff.1 h
  · exact standsIn_of_readItems (fun _ => standsIn_of_mem_tokens) h
  · split at h
    · cases h
    · cases h
      exact .of_isInfix List.infix_rfl

/-! ### Errors of lines -/

/-- What follows lines that cannot be read does not matter. -/
theorem parseLines_append_of_error {align : Align} {lines : List Text} {e : Error}
    (h : parseLines align lines = .error e) (more : List Text) :
    parseLines align (lines ++ more) = .error e := by
  induction lines generalizing align with
  | nil => cases h
  | cons line lines ih =>
    rw [List.cons_append]
    unfold parseLines at h ⊢
    apply bind_eq_error_iff.2
    obtain h | ⟨⟨next, first⟩, hfirst, h⟩ := bind_eq_error_iff.1 h
    · exact .inl h
    · obtain h | ⟨rest, -, h⟩ := bind_eq_error_iff.1 h
      · refine .inr ⟨(next, first), hfirst, ?_⟩
        exact bind_eq_error_iff.2 (.inl (ih h))
      · cases h

theorem exists_parseLines_of_isPrefix {align : Align} {first lines : List Text}
    {es : List Element} (h : parseLines align lines = .ok es) (hfirst : first <+: lines) :
    ∃ fs, parseLines align first = .ok fs := by
  rw [exists_eq_ok_iff]
  intro e he
  obtain ⟨more, rfl⟩ := hfirst
  rw [parseLines_append_of_error he more] at h
  cases h

/-- `parseLines` fails at one of the lines, after those before it have been read. -/
theorem exists_line_of_parseLines {align : Align} {lines : List Text} {e : Error}
    (h : parseLines align lines = .error e) :
    ∃ before line after, lines = before ++ line :: after ∧
      (∃ es, parseLines align before = .ok es) ∧
      parseLines align (before ++ [line]) = .error e ∧ Text.StandsIn e.fragment line := by
  induction lines generalizing align with
  | nil => cases h
  | cons line lines ih =>
    unfold parseLines at h
    obtain h | ⟨⟨next, first⟩, hfirst, h⟩ := bind_eq_error_iff.1 h
    · refine ⟨[], line, lines, rfl, ⟨[], rfl⟩, ?_, standsIn_of_parseLine h⟩
      exact bind_eq_error_iff.2 (.inl h)
    · obtain h | ⟨rest, -, h⟩ := bind_eq_error_iff.1 h
      · obtain ⟨before, wrong, after, rfl, ⟨es, hes⟩, hwrong, hfragment⟩ := ih h
        refine ⟨line :: before, wrong, after, rfl, ⟨first ++ es, ?_⟩, ?_, hfragment⟩
        · unfold parseLines
          refine bind_eq_ok_iff.2 ⟨(next, first), hfirst, ?_⟩
          exact bind_eq_ok_iff.2 ⟨es, hes, rfl⟩
        · refine bind_eq_error_iff.2 (.inr ⟨(next, first), hfirst, ?_⟩)
          exact bind_eq_error_iff.2 (.inl hwrong)
      · cases h

/-! ### Errors of markup -/

/-- The place of an error: a line of the markup, as it stands between line feeds, with the lines
before and after it. -/
structure Located (markup : Text) (e : Error) (before : List Text) (line : Text)
    (after : List Text) : Prop where
  split : Text.splitOn '\n' markup = before ++ line :: after
  /-- All lines before it can be read together, and so can the first few of them. -/
  reads : ∀ lines, lines <+: before → ∃ es, parse (Text.join '\n' lines) = .ok es
  /-- With the line they cannot, whatever lines are taken with it. -/
  fails : ∀ lines, lines <+: after → parse (Text.join '\n' (before ++ line :: lines)) = .error e
  fragment : Text.StandsIn e.fragment (Text.chomp line)

theorem parse_eq_error_iff {markup : Text} {e : Error} :
    parse markup = .error e ↔ parseLines .left (splitLines markup) = .error e :=
  map_eq_error_iff

theorem parse_join_eq_error_iff {pieces : List Text} (hne : pieces ≠ [])
    (h : ∀ p ∈ pieces, '\n' ∉ p) {e : Error} :
    parse (Text.join '\n' pieces) = .error e ↔
      parseLines .left (pieces.map Text.chomp) = .error e := by
  rw [parse_eq_error_iff, splitLines_join hne h]

/-- `parse` fails alike when lines are added to the markup, and the error is `Located` at a line:
before it nothing is wrong, from it on the error is there, and the fragment is a part of it. -/
theorem located_of_parse_eq_error {markup : Text} {e : Error} (h : parse markup = .error e) :
    (∀ more, parse (markup ++ '\n' :: more) = .error e) ∧
      ∃ before line after, Located markup e before line after := by
  rw [parse_eq_error_iff] at h
  constructor
  · intro more
    rw [parse_eq_error_iff, splitLines, Text.splitOn_append, List.map_append]
    exact parseLines_append_of_error h _
  · obtain ⟨lines, wrong, rest, hlines, ⟨es, hes⟩, hwrong, hfragment⟩ := exists_line_of_parseLines h
    obtain ⟨before, tail, hsplit, rfl, htail⟩ := List.map_eq_append_iff.1 hlines
    obtain ⟨line, after, rfl, rfl, rfl⟩ := List.map_eq_cons_iff.1 htail
    have hfeed : ∀ p ∈ before ++ line :: after, '\n' ∉ p := by
      intro p hp
      rw [← hsplit] at hp
      exact Text.not_mem_of_mem_splitOn hp
    refine ⟨before, line, after, hsplit, fun first hfirst => ?_, fun more hmore => ?_, hfragment⟩
    · rw [exists_eq_ok_iff]
      intro e' he'
      cases first with
      | nil =>
        have hempty : parse (Text.join '\n' []) = .ok [.feed 1] := by decide +kernel
        rw [hempty] at he'
        cases he'
      | cons p first =>
        rw [parse_join_eq_error_iff (List.cons_ne_nil _ _)] at he'
        · obtain ⟨fs, hfs⟩ := exists_parseLines_of_isPrefix hes (hfirst.map Text.chomp)
          rw [he'] at hfs
          cases hfs
        · exact fun q hq => hfeed q (List.mem_append_left _ (hfirst.subset hq))
    · rw [parse_join_eq_error_iff (by simp)]
      · rw [List.map_append, List.map_cons, List.append_cons]
        exact parseLines_append_of_error hwrong _
      · intro q hq
        apply hfeed q
        rw [List.mem_append, List.mem_cons] at hq ⊢
        exact hq.imp_right (Or.imp_right (hmore.subset ·))

/-- A picture that is none, after a line that can be read and before one that cannot. -/
theorem located_of_wrong_picture :
    parse "[C]Sum\r\n<IMG>no</Img>\r\n</b>".toList =
        .error ⟨"<IMG>no</img>".toList, .invalidBitmap (.badHex (.badDigit 110 0))⟩ ∧
      (∀ more, parse ("[C]Sum\r\n<IMG>no</Img>\r\n</b>".toList ++ '\n' :: more) =
        .error ⟨"<IMG>no</img>".toList, .invalidBitmap (.badHex (.badDigit 110 0))⟩) ∧
      ∃ before line after, Located "[C]Sum\r\n<IMG>no</Img>\r\n</b>".toList
        ⟨"<IMG>no</img>".toList, .invalidBitmap (.badHex (.badDigit 110 0))⟩ before line after := by
  have hparse : parse "[C]Sum\r\n<IMG>no</Img>\r\n</b>".toList =
      .error ⟨"<IMG>no</img>".toList, .invalidBitmap (.badHex (.badDigit 110 0))⟩ := by
    decide +kernel
  exact ⟨hparse, located_of_parse_eq_error hparse⟩

end Markup

end ReceiptPrinter

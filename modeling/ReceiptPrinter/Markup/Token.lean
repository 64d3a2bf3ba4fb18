import ReceiptPrinter.Markup.Element

/-!
# Tokens of a markup line

A line is read as alignment tags `[L]`, `[C]` and `[R]`, tags between angle brackets, and the text
between them. An angle bracket starts a tag only before an ASCII letter or a slash. The three block
tags take everything up to their own closing tag, which is found in any letter case; nothing inside
is read as markup.
-/

namespace ReceiptPrinter.Markup

/-- Tags whose content is not markup. -/
inductive BlockKind where
  | picture
  | barcode
  | qrCode
  deriving DecidableEq, Repr

namespace BlockKind

def name : BlockKind → Text
  | .picture => "img".toList
  | .barcode => "barcode".toList
  | .qrCode => "qrcode".toList

def ofName? (s : Text) : Option BlockKind :=
  [picture, barcode, qrCode].find? fun kind => kind.name == s

/-- The closing tag in lower case. -/
def closing (kind : BlockKind) : Text := '<' :: '/' :: kind.name ++ ['>']

end BlockKind

/-- A piece of a line. Names are in lower case; `raw` is a tag as written. -/
inductive Token where
  /-- A stretch of text, not empty. -/
  | text (content : Text)
  | align (align : Align)
  | opening (name attributes raw : Text)
  | closing (name raw : Text)
  /-- A block tag with its content, or without if it is never closed. -/
  | block (kind : BlockKind) (attributes raw : Text) (content : Option Text)
  /-- The rest of a line from a tag that has no end. -/
  | unterminated (rest : Text)
  deriving DecidableEq, Repr

def alignTag : Align → Text
  | .left => ['[', 'L', ']']
  | .center => ['[', 'C', ']']
  | .right => ['[', 'R', ']']

/-- An alignment tag at the start of a text, and the text after it. -/
def readAlign? : Text → Option (Align × Text)
  | '[' :: 'L' :: ']' :: rest => some (.left, rest)
  | '[' :: 'C' :: ']' :: rest => some (.center, rest)
  | '[' :: 'R' :: ']' :: rest => some (.right, rest)
  | _ => none

/-- Whether a text starts with a tag: `<`, then a letter or a slash. -/
def startsTag : Text → Bool
  | '<' :: c :: _ => c.isAlpha || c == '/'
  | _ => false

/-- The text before and after the first `closing`, which is in lower case, in any letter case. -/
def splitAtClosing? (closing : Text) : Text → Option (Text × Text)
  | [] => none
  | c :: s =>
    if Text.lower ((c :: s).take closing.length) = closing then
      some ([], (c :: s).drop closing.length)
    else (splitAtClosing? closing s).map fun (content, rest) => (c :: content, rest)

/-- The token of a tag with `inner` between its brackets and `after` behind it, and the rest of the
line after the token. -/
def readTag (inner after : Text) : Token × Text :=
  let raw := '<' :: inner ++ ['>']
  match inner with
  | '/' :: name => (.closing (Text.lower (Text.trim name)) raw, after)
  | _ =>
    let name := Text.lower (inner.takeWhile (!Text.isBlank ·))
    let attributes := inner.dropWhile (!Text.isBlank ·)
    match BlockKind.ofName? name with
    | none => (.opening name attributes raw, after)
    | some kind =>
      match splitAtClosing? kind.closing after with
      | some (content, rest) => (.block kind attributes raw (some content), rest)
      | none => (.block kind attributes raw none, [])

/-- Puts a character of text before tokens, joining it to text that follows. -/
def consText (c : Char) : List Token → List Token
  | .text s :: tokens => .text (c :: s) :: tokens
  | tokens => .text [c] :: tokens

theorem length_lt_of_readAlign? {s rest : Text} {a : Align} (h : readAlign? s = some (a, rest)) :
    rest.length < s.length := by
  unfold readAlign? at h
  split at h <;> simp at h <;> obtain ⟨-, rfl⟩ := h <;> simp only [List.length_cons] <;> omega

theorem length_le_of_splitAtClosing? {closing s content rest : Text}
    (h : splitAtClosing? closing s = some (content, rest)) : rest.length ≤ s.length := by
  induction s generalizing content with
  | nil => simp [splitAtClosing?] at h
  | cons c s ih =>
    unfold splitAtClosing? at h
    split at h
    · simp only [Option.some.injEq, Prod.mk.injEq] at h
      obtain ⟨-, rfl⟩ := h
      simp
    · obtain ⟨⟨content', rest'⟩, hs, heq⟩ := Option.map_eq_some_iff.1 h
      simp only [Prod.mk.injEq] at heq
      obtain ⟨-, rfl⟩ := heq
      exact Nat.le_succ_of_le (ih hs)

theorem length_readTag_le (inner after : Text) : (readTag inner after).2.length ≤ after.length := by
  unfold readTag
  simp only
  split
  · exact Nat.le_refl _
  · split
    · exact Nat.le_refl _
    · split
      · next h => exact length_le_of_splitAtClosing? h
      · exact Nat.zero_le _

def tokens (s : Text) : List Token :=
  match s with
  | [] => []
  | c :: rest =>
    match _h : readAlign? (c :: rest) with
    | some (a, rest') => .align a :: tokens rest'
    | none =>
      if startsTag (c :: rest) then
        match _h : rest.dropWhile (· != '>') with
        | [] => [.unterminated (c :: rest)]
        | _ :: after =>
          (readTag (rest.takeWhile (· != '>')) after).1 ::
            tokens (readTag (rest.takeWhile (· != '>')) after).2
      else consText c (tokens rest)
termination_by s.length
decreasing_by
  · exact length_lt_of_readAlign? _h
  · have h1 := length_readTag_le (rest.takeWhile (· != '>')) after
    have h2 := (List.dropWhile_sublist (l := rest) (· != '>')).length_le
    rw [_h] at h2
    simp only [List.length_cons] at h2 ⊢
    omega
  · simp

end ReceiptPrinter.Markup

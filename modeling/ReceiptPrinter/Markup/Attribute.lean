import ReceiptPrinter.Markup.Error

/-!
# Attributes of a tag

An attribute is a key of ASCII letters, digits, hyphens and underscores, an equals sign and a value
between single or double quotes. White space may stand anywhere between these. Keys are read in
lower case and are distinct; values are kept as written.
-/

namespace ReceiptPrinter.Markup

/-- A key in lower case and its value. -/
structure Attribute where
  key : Text
  value : Text
  deriving DecidableEq, Repr

namespace Attribute

def isKeyChar (c : Char) : Bool := c.isAlphanum || c == '-' || c == '_'

/-- Reads the attribute at the start of `s`, which does not start with white space. The rest is what
follows the closing quote. -/
def read (s : Text) : Except Fault (Attribute × Text) :=
  let name := s.takeWhile isKeyChar
  if name.isEmpty then .error .malformedAttribute
  else
    let key := Text.lower name
    match Text.trimStart (s.dropWhile isKeyChar) with
    | '=' :: rest =>
      match Text.trimStart rest with
      | quote :: body =>
        if quote = '\'' ∨ quote = '"' then
          match body.dropWhile (· != quote) with
          | _ :: rest => .ok (⟨key, body.takeWhile (· != quote)⟩, rest)
          | [] => .error (.unterminatedValue key)
        else .error (.valueNotQuoted key)
      | [] => .error (.valueNotQuoted key)
    | _ => .error (.attributeWithoutValue key)

theorem length_dropWhile_le (p : Char → Bool) (s : Text) : (s.dropWhile p).length ≤ s.length :=
  (List.dropWhile_sublist p).length_le

theorem length_trimStart_le (s : Text) : (Text.trimStart s).length ≤ s.length :=
  length_dropWhile_le _ s

theorem length_lt_of_read {s rest : Text} {a : Attribute} (h : read s = .ok (a, rest)) :
    rest.length < s.length := by
  unfold read at h
  simp only at h
  split at h
  · simp at h
  · split at h
    · next tail htail =>
      split at h
      · next quote body hbody =>
        split at h
        · split at h
          · next c tail' hdrop =>
            simp only [Except.ok.injEq, Prod.mk.injEq] at h
            obtain ⟨-, rfl⟩ := h
            have h1 := length_dropWhile_le (· != quote) body
            have h2 := length_trimStart_le tail
            have h3 := length_trimStart_le (s.dropWhile isKeyChar)
            have h4 := length_dropWhile_le isKeyChar s
            rw [hdrop] at h1
            rw [hbody] at h2
            rw [htail] at h3
            simp only [List.length_cons] at h1 h2 h3
            omega
          · simp at h
        · simp at h
      · simp at h
    · simp at h

/-- Reads all attributes of `s`; `seen` are the keys already read. -/
def readAll (seen : List Text) (s : Text) : Except Fault (List Attribute) :=
  let start := Text.trimStart s
  if start.isEmpty then .ok []
  else
    match _h : read start with
    | .error fault => .error fault
    | .ok (a, rest) =>
      if a.key ∈ seen then .error (.duplicateAttribute a.key)
      else (readAll (a.key :: seen) rest).map (a :: ·)
termination_by s.length
decreasing_by
  exact Nat.lt_of_lt_of_le (length_lt_of_read _h) (length_trimStart_le s)

end Attribute

def parseAttributes (s : Text) : Except Fault (List Attribute) := Attribute.readAll [] s

/-- Fails on the first attribute of a tag that takes none. -/
def rejectAttributes : List Attribute → Except Fault Unit
  | [] => .ok ()
  | a :: _ => .error (.unexpectedAttribute a.key)

end ReceiptPrinter.Markup

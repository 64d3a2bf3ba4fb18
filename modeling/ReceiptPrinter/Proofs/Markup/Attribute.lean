import Mathlib.Tactic.Tauto
import ReceiptPrinter.Markup.Attribute
import ReceiptPrinter.Proofs.Text.Decimal
import ReceiptPrinter.Proofs.Text.Lines

/-!
# Attributes in the form in which they are written

`Attribute.written` puts an attribute after a blank and its value between single quotes.
`parseAttributes` gives `Writable` attributes with distinct keys back.
-/

namespace ReceiptPrinter.Markup

namespace Attribute

/-- An attribute as it is written in a tag. -/
def written (a : Attribute) : Text := ' ' :: a.key ++ '=' :: '\'' :: a.value ++ ['\'']

/-- The characters of values that are written: no quote, no bracket that ends the tag and no control
character. -/
def isValueChar (c : Char) : Bool := c != '\'' && c != '>' && decide (32 ≤ c.toNat)

/-- What makes `a` fit to be `written` in a tag. -/
structure Writable (a : Attribute) : Prop where
  key_ne_nil : a.key ≠ []
  key_chars : ∀ c ∈ a.key, isKeyChar c = true
  key_lower : Text.lower a.key = a.key
  value_chars : ∀ c ∈ a.value, isValueChar c = true

theorem isValueChar_iff {c : Char} :
    isValueChar c = true ↔ c ≠ '\'' ∧ c ≠ '>' ∧ 32 ≤ c.toNat := by
  simp [isValueChar, and_assoc]

theorem isValueChar_of_isDigit {c : Char} (h : c.isDigit = true) : isValueChar c = true := by
  have hbounds := Text.isDigit_iff.1 h
  refine isValueChar_iff.2 ⟨?_, ?_, by omega⟩ <;> rintro rfl <;> cases h

theorem bounds_of_isAlpha {c : Char} (h : c.isAlpha = true) : 65 ≤ c.toNat ∧ c.toNat ≤ 122 := by
  rcases Bool.or_eq_true_iff.1 h with hupper | hlower
  · have hbounds : 65 ≤ c.toNat ∧ c.toNat ≤ 90 := of_decide_eq_true hupper
    omega
  · obtain ⟨hlow, hhigh⟩ := Bool.and_eq_true_iff.1 hlower
    have hlow : 97 ≤ c.toNat := of_decide_eq_true hlow
    have hhigh : c.toNat ≤ 122 := of_decide_eq_true hhigh
    omega

theorem bounds_of_isKeyChar {c : Char} (h : isKeyChar c = true) :
    (48 ≤ c.toNat ∧ c.toNat ≤ 122) ∨ c.toNat = 45 := by
  simp only [isKeyChar, Bool.or_eq_true, beq_iff_eq] at h
  rcases h with (h | rfl) | rfl
  · rcases Bool.or_eq_true_iff.1 h with halpha | hdigit
    · have hbounds := bounds_of_isAlpha halpha
      omega
    · have hbounds := Text.isDigit_iff.1 hdigit
      omega
  · exact .inr rfl
  · exact .inl (by decide)

theorem not_isBlank_of_isKeyChar {c : Char} (h : isKeyChar c = true) :
    Text.isBlank c = false := by
  have hbounds := bounds_of_isKeyChar h
  simp only [Text.isBlank, Bool.or_eq_false_iff, Bool.and_eq_false_iff, decide_eq_false_iff_not,
    beq_eq_false_iff_ne]
  omega

section
variable {a : Attribute}

theorem Writable.of_key {key value : Text}
    (hkey : key ≠ [] ∧ (∀ c ∈ key, isKeyChar c = true) ∧ Text.lower key = key)
    (hvalue : ∀ c ∈ value, isValueChar c = true) : Writable ⟨key, value⟩ :=
  ⟨hkey.1, hkey.2.1, hkey.2.2, hvalue⟩

theorem mem_written {c : Char} :
    c ∈ a.written ↔ c = ' ' ∨ c ∈ a.key ∨ c = '=' ∨ c = '\'' ∨ c ∈ a.value := by
  simp only [written, List.cons_append, List.append_assoc, List.mem_cons, List.mem_append,
    List.not_mem_nil, or_false]
  tauto

theorem Writable.not_mem_written (h : a.Writable) : '>' ∉ a.written := by
  rw [mem_written]
  rintro (hc | hkey | hc | hc | hvalue)
  · exact absurd hc (by decide)
  · exact absurd (h.key_chars _ hkey) (by decide)
  · exact absurd hc (by decide)
  · exact absurd hc (by decide)
  · exact (isValueChar_iff.1 (h.value_chars _ hvalue)).2.1 rfl

theorem Writable.visible (h : a.Writable) : Text.Visible a.written := by
  intro c hc
  rcases mem_written.1 hc with rfl | hkey | rfl | rfl | hvalue
  · decide
  · have hbounds := bounds_of_isKeyChar (h.key_chars c hkey)
    omega
  · decide
  · decide
  · exact (isValueChar_iff.1 (h.value_chars c hvalue)).2.2

end

def IsBlanks (s : Text) : Prop := ∀ c ∈ s, Text.isBlank c = true

theorem IsBlanks.trimStart_append {blanks : Text} (h : IsBlanks blanks) (s : Text) :
    Text.trimStart (blanks ++ s) = Text.trimStart s :=
  List.dropWhile_append_of_pos h

/-- `read` takes an attribute up to its closing quote, with white space around its equals sign. -/
theorem read_blanks {key before after value rest : Text} {quote : Char} (hne : key ≠ [])
    (hkey : ∀ c ∈ key, isKeyChar c = true) (hbefore : IsBlanks before) (hafter : IsBlanks after)
    (hquote : quote = '\'' ∨ quote = '"') (hvalue : quote ∉ value) :
    read (key ++ (before ++ '=' :: (after ++ quote :: (value ++ quote :: rest)))) =
      .ok (⟨Text.lower key, value⟩, rest) := by
  have hstop : ∀ s, (before ++ '=' :: s).takeWhile isKeyChar = [] ∧
      (before ++ '=' :: s).dropWhile isKeyChar = before ++ '=' :: s := by
    intro s
    cases before with
    | nil => exact ⟨rfl, rfl⟩
    | cons c before =>
      have hc : ¬isKeyChar c = true := by
        intro hc
        have hblank := hbefore c List.mem_cons_self
        rw [not_isBlank_of_isKeyChar hc] at hblank
        cases hblank
      rw [List.cons_append, List.takeWhile_cons_of_neg hc, List.dropWhile_cons_of_neg hc]
      exact ⟨rfl, rfl⟩
  have hq : ∀ c ∈ value, (c != quote) = true := by
    intro c hc
    rw [bne_iff_ne]
    rintro rfl
    exact hvalue hc
  have hstart : Text.trimStart (quote :: (value ++ quote :: rest)) =
      quote :: (value ++ quote :: rest) := by
    refine Text.trimStart_of_head? fun c hc => ?_
    cases hc
    rcases hquote with rfl | rfl <;> decide
  have hequals : ∀ s, Text.trimStart ('=' :: s) = '=' :: s := fun s =>
    Text.trimStart_of_head? (by simp; decide)
  have htake : (value ++ quote :: rest).takeWhile (· != quote) = value := by
    rw [List.takeWhile_append_of_pos hq]
    simp
  have hdrop : (value ++ quote :: rest).dropWhile (· != quote) = quote :: rest := by
    rw [List.dropWhile_append_of_pos hq]
    simp
  simp only [read, List.takeWhile_append_of_pos hkey, List.dropWhile_append_of_pos hkey,
    (hstop _).1, (hstop _).2, List.append_nil, List.isEmpty_eq_false_iff.2 hne,
    hbefore.trimStart_append, hequals, hafter.trimStart_append, hstart, hquote, htake, hdrop,
    Bool.false_eq_true, if_false, if_true]

/-- `read` takes a `written` attribute, without its blank, up to the closing quote. -/
theorem read_written {a : Attribute} (h : a.Writable) (rest : Text) :
    read (a.key ++ '=' :: '\'' :: a.value ++ '\'' :: rest) = .ok (a, rest) := by
  have hnone : IsBlanks [] := fun c hc => absurd hc List.not_mem_nil
  have hquote : '\'' ∉ a.value := fun hc => (isValueChar_iff.1 (h.value_chars _ hc)).1 rfl
  have hread : read (a.key ++ '=' :: '\'' :: (a.value ++ '\'' :: rest)) =
      .ok (⟨Text.lower a.key, a.value⟩, rest) :=
    read_blanks h.key_ne_nil h.key_chars hnone hnone (.inl rfl) hquote
  rw [h.key_lower] at hread
  rw [List.append_assoc]
  exact hread

theorem readAll_eq_of_read {seen : List Text} {s start rest : Text} {a : Attribute}
    (hstart : Text.trimStart s = start) (hread : read start = .ok (a, rest)) :
    readAll seen s = if a.key ∈ seen then .error (.duplicateAttribute a.key)
      else (readAll (a.key :: seen) rest).map (a :: ·) := by
  have hne : start.isEmpty = false := by
    cases start with
    | nil => cases hread
    | cons => rfl
  rw [readAll]
  simp only [hstart]
  rw [if_neg (by rw [hne]; exact Bool.false_ne_true)]
  split
  · next heq => rw [hstart, hread] at heq; cases heq
  · next heq =>
    rw [hstart, hread] at heq
    cases heq
    rfl

theorem readAll_of_read {seen : List Text} {s start rest : Text} {a : Attribute}
    (hstart : Text.trimStart s = start) (hread : read start = .ok (a, rest)) (hkey : a.key ∉ seen) :
    readAll seen s = (readAll (a.key :: seen) rest).map (a :: ·) := by
  rw [readAll_eq_of_read hstart hread, if_neg hkey]

theorem readAll_written {seen : List Text} {as : List Attribute} (h : ∀ a ∈ as, a.Writable)
    (hkeys : (seen ++ as.map key).Nodup) : readAll seen (as.flatMap written) = .ok as := by
  induction as generalizing seen with
  | nil =>
    rw [readAll]
    rfl
  | cons a as ih =>
    have ha := h a (by simp)
    obtain ⟨c, k, hkey⟩ := List.exists_cons_of_ne_nil ha.key_ne_nil
    have hstart : Text.trimStart ((a :: as).flatMap written) =
        a.key ++ '=' :: '\'' :: a.value ++ '\'' :: as.flatMap written := by
      have hblank : Text.trimStart ((a :: as).flatMap written) =
          Text.trimStart (a.key ++ '=' :: '\'' :: a.value ++ '\'' :: as.flatMap written) := by
        rw [List.flatMap_cons, written, List.append_assoc, List.singleton_append]
        rfl
      rw [hblank, hkey]
      refine Text.trimStart_of_head? fun d hd => ?_
      have hcd : c = d := by simpa using hd
      exact hcd ▸ not_isBlank_of_isKeyChar (ha.key_chars c (by simp [hkey]))
    have hmem : a.key ∉ seen := fun hs =>
      (List.nodup_append.1 hkeys).2.2 _ hs _ (by simp) rfl
    have hrest : (a.key :: seen ++ as.map Attribute.key).Nodup := by
      refine hkeys.perm ?_
      simp only [List.map_cons, List.cons_append]
      exact List.perm_middle
    rw [readAll_of_read hstart (read_written ha _) hmem,
      ih (fun b hb => h b (List.mem_cons_of_mem _ hb)) hrest]
    rfl

end Attribute

/-- `parseAttributes` gives `written` attributes back if their keys are distinct. -/
theorem parseAttributes_written {as : List Attribute} (h : ∀ a ∈ as, a.Writable)
    (hkeys : (as.map Attribute.key).Nodup) :
    parseAttributes (as.flatMap Attribute.written) = .ok as :=
  Attribute.readAll_written h hkeys

end ReceiptPrinter.Markup

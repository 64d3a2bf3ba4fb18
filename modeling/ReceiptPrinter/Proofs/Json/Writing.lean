import Mathlib.Data.List.Forall2
import Mathlib.Data.List.TakeWhile
import ReceiptPrinter.Json.Numeral
import ReceiptPrinter.Json.Record
import ReceiptPrinter.Proofs.Except
import ReceiptPrinter.Proofs.Text.Decimal
import ReceiptPrinter.Text.HexWord

/-!
# Written JSON is read back

What is written has no white space, and a value that stands in an object is followed by a comma or a
brace. `ReadsAs` says that a text is read as a value before either: so are a quoted string, a
natural number and the names of values, and any number that is read to its end alone. A written
object is read as its members, so that `Record.read` takes each field from the value written for it.
-/

namespace ReceiptPrinter.Json

/-! ### Strings -/

theorem hex4?_control {n : Nat} (h : n < 0x20) :
    hex4? '0' '0' (Hex.digit (n / 16)) (Hex.digit (n % 16)) = some n := by
  have hhigh : Text.hexValue? (Hex.digit (n / 16)) = some (n / 16) :=
    Text.hexValue?_digitChar _ (by omega)
  have hlow : Text.hexValue? (Hex.digit (n % 16)) = some (n % 16) :=
    Text.hexValue?_digitChar _ (by omega)
  have hzero : Text.hexValue? '0' = some 0 := rfl
  simp only [hex4?, hhigh, hlow, hzero, Option.bind_eq_bind, Option.bind_some, Option.pure_def]
  congr 1
  omega

theorem bind_consChar (c : Char) (x : Option (Option Text × Text)) :
    (do return consChar c (← x)) = x.map (consChar c) := by
  cases x <;> rfl

/-- A numbered escape that is no half of a surrogate pair is read alone, also before another one. -/
theorem readString_numbered {a b c d : Char} {unit : Nat} (h : hex4? a b c d = some unit)
    (hunit : unit < 0xD800) (rest : Text) :
    readString ('\\' :: 'u' :: a :: b :: c :: d :: rest) =
      (readString rest).map (consChar (Char.ofNat unit)) := by
  have hpair : ¬(0xD800 ≤ unit ∧ unit ≤ 0xDFFF) := by omega
  rw [readString.eq_def]
  split
  · next heq => cases heq
  · next heq =>
    cases heq
    rw [h]
    simp only [Option.bind_eq_bind, Option.bind_some, if_neg hpair]
    exact bind_consChar _ _
  · next heq =>
    cases heq
    rw [h]
    simp only [Option.bind_eq_bind, Option.bind_some, if_neg hpair]
    exact bind_consChar _ _
  · next hnumbered heq =>
    cases heq
    exact absurd rfl (hnumbered _ _ _ _ _ rfl)
  · next hletter heq =>
    cases heq
    exact absurd rfl (hletter _ _ rfl)
  · next heq => cases heq

theorem readString_letter {c c' : Char} (hc : c ≠ 'u') (h : letterEscape? c = some c')
    (rest : Text) : readString ('\\' :: c :: rest) = (readString rest).map (consChar c') := by
  rw [readString]
  · rw [h]
    exact bind_consChar _ _
  all_goals
    intros
    contradiction

theorem readString_plain {c : Char} (hquote : c ≠ '"') (hslash : c ≠ '\\') (hc : 0x20 ≤ c.toNat)
    (rest : Text) : readString (c :: rest) = (readString rest).map (consChar c) := by
  rw [readString]
  · rw [if_neg (Nat.not_lt.2 hc)]
    exact bind_consChar _ _
  · exact hquote
  all_goals
    intros
    contradiction

/-- `escape` gives a letter, a number or the character itself. -/
theorem escape_cases (c : Char) :
    (∃ d, escape c = ['\\', d] ∧ d ≠ 'u' ∧ letterEscape? d = some c) ∨
    (escape c = ['\\', 'u', '0', '0', Hex.digit (c.toNat / 16), Hex.digit (c.toNat % 16)] ∧
      c.toNat < 0x20) ∨
    (escape c = [c] ∧ c ≠ '"' ∧ c ≠ '\\' ∧ 0x20 ≤ c.toNat) := by
  have hcode : ∀ n, c.toNat = n → Char.ofNat n = c := by
    rintro _ rfl
    exact Char.ofNat_toNat c
  unfold escape
  split
  · next h => exact .inl ⟨'"', rfl, by decide, by rw [h]; rfl⟩
  split
  · next h => exact .inl ⟨'\\', rfl, by decide, by rw [h]; rfl⟩
  split
  · next h => exact .inl ⟨'n', rfl, by decide, by rw [h]; rfl⟩
  split
  · next h => exact .inl ⟨'r', rfl, by decide, by rw [h]; rfl⟩
  split
  · next h => exact .inl ⟨'t', rfl, by decide, by rw [h]; rfl⟩
  split
  · next h => exact .inl ⟨'b', rfl, by decide, by rw [← hcode 8 h]; rfl⟩
  split
  · next h => exact .inl ⟨'f', rfl, by decide, by rw [← hcode 12 h]; rfl⟩
  split
  · next h => exact .inr (.inl ⟨rfl, h⟩)
  · next hquote hslash _ _ _ _ _ hlow =>
    exact .inr (.inr ⟨rfl, hquote, hslash, Nat.not_lt.1 hlow⟩)

theorem readString_escape (c : Char) (rest : Text) :
    readString (escape c ++ rest) = (readString rest).map (consChar c) := by
  obtain ⟨d, hescape, hd, hletter⟩ | ⟨hescape, hlow⟩ | ⟨hescape, hquote, hslash, hc⟩ :=
    escape_cases c
  · rw [hescape]
    exact readString_letter hd hletter rest
  · have hread := readString_numbered (hex4?_control hlow) (by omega) rest
    rw [Char.ofNat_toNat] at hread
    rw [hescape]
    exact hread
  · rw [hescape]
    exact readString_plain hquote hslash hc rest

/-- `readString` takes a quoted string back up to its closing quote. -/
theorem readString_flatMap_escape (s rest : Text) :
    readString (s.flatMap escape ++ '"' :: rest) = some (some s, rest) := by
  induction s with
  | nil => rw [List.flatMap_nil, List.nil_append, readString]
  | cons c s ih =>
    rw [List.flatMap_cons, List.append_assoc, readString_escape, ih]
    rfl

/-! ### Numbers -/

/-- What may follow a value in an object. -/
def EndsValue : Text → Prop
  | [] => False
  | c :: _ => c = ',' ∨ c = '\x7d'

/-- Whether `p` reads the same before the end of a value as at the end of the text. -/
def ReadsOn {α : Type} (p : Text → Option (α × Text)) : Prop :=
  ∀ {s a rest after}, p s = some (a, rest) → EndsValue after →
    p (s ++ after) = some (a, rest ++ after)

theorem not_isDigit_of_endsValue {c : Char} {s : Text} (h : EndsValue (c :: s)) :
    c.isDigit = false := by
  rcases h with rfl | rfl <;> rfl

theorem readsOn_readDigits? : ReadsOn readDigits? := by
  intro s digits rest after h hafter
  cases after with
  | nil => cases hafter
  | cons c after =>
    have hc : ¬c.isDigit = true := Bool.eq_false_iff.1 (not_isDigit_of_endsValue hafter)
    have htake : (s ++ c :: after).takeWhile Char.isDigit = s.takeWhile Char.isDigit := by
      rw [List.takeWhile_append, List.takeWhile_cons_of_neg hc, List.append_nil]
      split
      · next hall => exact ((List.takeWhile_prefix _).eq_of_length hall).symm
      · rfl
    have hdrop : (s ++ c :: after).dropWhile Char.isDigit =
        s.dropWhile Char.isDigit ++ c :: after := by
      rw [List.dropWhile_append, List.dropWhile_cons_of_neg hc]
      split
      · next hempty => rw [List.isEmpty_iff.1 hempty, List.nil_append]
      · rfl
    simp only [readDigits?, htake, hdrop] at h ⊢
    split at h
    · cases h
    · next hne =>
      cases h
      rw [if_neg hne]

theorem ReadsOn.map {α β : Type} {p : Text → Option (α × Text)} (h : ReadsOn p) {f : α → β}
    {s rest after : Text} {b : β} (hs : (p s).map (fun (a, rest) => (f a, rest)) = some (b, rest))
    (hafter : EndsValue after) :
    (p (s ++ after)).map (fun (a, rest) => (f a, rest)) = some (b, rest ++ after) := by
  obtain ⟨⟨a, rest'⟩, ha, heq⟩ := Option.map_eq_some_iff.1 hs
  cases heq
  rw [h ha hafter]
  rfl

theorem readsOn_readFraction? : ReadsOn readFraction? := by
  intro s fraction rest after h hafter
  unfold readFraction? at h
  split at h
  · exact readsOn_readDigits?.map h hafter
  · next hpoint =>
    cases h
    unfold readFraction?
    split
    · next heq =>
      cases s with
      | nil =>
        rw [List.nil_append] at heq
        rw [heq] at hafter
        rcases hafter with h | h <;> cases h
      | cons c s =>
        cases heq
        exact absurd rfl (hpoint s)
    · rfl

theorem readsOn_readPower? : ReadsOn readPower? := by
  intro s power rest after h hafter
  unfold readPower? at h
  split at h
  · exact readsOn_readDigits?.map h hafter
  · exact readsOn_readDigits?.map h hafter
  · next hminus hplus =>
    have hread := readsOn_readDigits?.map h hafter
    cases s with
    | nil => cases h
    | cons c s =>
      unfold readPower?
      split
      · next heq =>
        cases heq
        exact absurd rfl (hminus s)
      · next heq =>
        cases heq
        exact absurd rfl (hplus s)
      · exact hread

theorem readsOn_readExponent? : ReadsOn readExponent? := by
  intro s exponent rest after h hafter
  cases s with
  | nil =>
    cases h
    cases after with
    | nil => cases hafter
    | cons c after =>
      have hmark : ¬(c = 'e' ∨ c = 'E') := by rcases hafter with rfl | rfl <;> decide
      rw [List.nil_append, readExponent?, if_neg hmark]
  | cons c s =>
    rw [List.cons_append]
    rw [readExponent?] at h ⊢
    split at h
    · next hmark =>
      rw [if_pos hmark]
      exact readsOn_readPower?.map h hafter
    · next hmark =>
      cases h
      rw [if_neg hmark, List.cons_append]

/-- A number ends where its value does. -/
theorem readsOn_readUnsigned (negative : Bool) : ReadsOn (readUnsigned negative) := by
  intro s n rest after h hafter
  unfold readUnsigned at h ⊢
  obtain ⟨⟨whole, rest₁⟩, hwhole, h⟩ := Option.bind_eq_some_iff.1 h
  rw [readsOn_readDigits? hwhole hafter]
  simp only [Option.bind_eq_bind, Option.bind_some] at h ⊢
  split at h
  · cases h
  · next hzero =>
    obtain ⟨⟨fraction, rest₂⟩, hfraction, h⟩ := Option.bind_eq_some_iff.1 h
    obtain ⟨⟨exponent, rest₃⟩, hexponent, h⟩ := Option.bind_eq_some_iff.1 h
    cases h
    rw [if_neg hzero, readsOn_readFraction? hfraction hafter]
    simp only [Option.bind_some, readsOn_readExponent? hexponent hafter]
    rfl

/-! ### Values -/

/-- Whether `s` is read as `v` before the end of a value. -/
def ReadsAs (s : Text) (v : Json) : Prop :=
  ∀ after, EndsValue after → read (s ++ after) = some (v, after)

/-- A value that starts with no bracket is a scalar. -/
theorem read_of_skipSpace {c : Char} {s t : Text} (hskip : skipSpace s = c :: t)
    (hbracket : c ≠ '[') (hbrace : c ≠ '\x7b') : read s = readScalar (c :: t) := by
  rw [read, readValue, hskip]
  split
  · next heq => exact absurd (List.cons.inj heq).1 hbracket
  · next heq => exact absurd (List.cons.inj heq).1 hbrace
  · rfl

theorem read_cons {c : Char} (hspace : isSpace c = false) (hbracket : c ≠ '[') (hbrace : c ≠ '\x7b')
    (s : Text) : read (c :: s) = readScalar (c :: s) :=
  read_of_skipSpace (List.dropWhile_cons_of_neg (by simp [hspace])) hbracket hbrace

theorem readsAs_null : ReadsAs "null".toList .null := by
  intro after _
  exact read_cons rfl (by decide) (by decide) _

theorem readsAs_true : ReadsAs "true".toList (.bool true) := by
  intro after _
  exact read_cons rfl (by decide) (by decide) _

theorem readsAs_false : ReadsAs "false".toList (.bool false) := by
  intro after _
  exact read_cons rfl (by decide) (by decide) _

theorem readsAs_quote (s : Text) : ReadsAs (quote s) (.string (some s)) := by
  intro after _
  have hquote : quote s ++ after = '"' :: (s.flatMap escape ++ '"' :: after) := by simp [quote]
  rw [hquote, read_cons rfl (by decide) (by decide), readScalar, readString_flatMap_escape]
  rfl

/-! ### Numbers as values -/

/-- What a number may start with. -/
def StartsNumber (c : Char) : Prop := c = '-' ∨ c.isDigit = true

theorem StartsNumber.ne {c d : Char} (h : StartsNumber c) (hd : d ≠ '-')
    (hdigit : d.isDigit = false) : c ≠ d := by
  rintro rfl
  rcases h with h | h
  · exact hd h
  · rw [hdigit] at h
    cases h

theorem readScalar_of_isDigit {c : Char} (hc : c.isDigit = true) (s : Text) :
    readScalar (c :: s) = (readUnsigned false (c :: s)).map fun (n, rest) => (.number n, rest) := by
  unfold readScalar
  split
  · next heq => cases heq; cases hc
  · next heq => cases heq; cases hc
  · next heq => cases heq; cases hc
  · next heq => cases heq; cases hc
  · next heq => cases heq; cases hc
  · rfl

theorem exists_cons_of_readUnsigned {negative : Bool} {s rest : Text} {n : Numeral}
    (h : readUnsigned negative s = some (n, rest)) : ∃ c t, s = c :: t ∧ c.isDigit = true := by
  obtain ⟨⟨whole, rest'⟩, hwhole, -⟩ := Option.bind_eq_some_iff.1 h
  cases s with
  | nil => cases hwhole
  | cons c t =>
    refine ⟨c, t, rfl, ?_⟩
    by_contra hc
    rw [readDigits?, List.takeWhile_cons_of_neg hc] at hwhole
    cases hwhole

/-- `readScalar` reads a number the same before the end of a value. -/
theorem readScalar_append {t after : Text} {n : Numeral} (h : readScalar t = some (.number n, []))
    (hafter : EndsValue after) :
    (∃ c t', t = c :: t' ∧ StartsNumber c) ∧ readScalar (t ++ after) = some (.number n, after) := by
  unfold readScalar at h
  split at h
  · cases h
  · cases h
  · cases h
  · obtain ⟨_, -, heq⟩ := Option.map_eq_some_iff.1 h
    cases heq
  · next rest =>
    refine ⟨⟨'-', rest, rfl, .inl rfl⟩, ?_⟩
    exact ReadsOn.map (readsOn_readUnsigned true) h hafter
  · have hread := ReadsOn.map (readsOn_readUnsigned false) h hafter
    obtain ⟨p, hp, -⟩ := Option.map_eq_some_iff.1 h
    obtain ⟨c, t', rfl, hc⟩ := exists_cons_of_readUnsigned hp
    refine ⟨⟨c, t', rfl, .inr hc⟩, ?_⟩
    rw [List.cons_append, readScalar_of_isDigit hc]
    exact hread

theorem readsAs_of_read {s : Text} {n : Numeral} (h : read s = some (.number n, [])) :
    ReadsAs s (.number n) := by
  intro after hafter
  have hscalar : readScalar (skipSpace s) = some (.number n, []) := by
    rw [read, readValue] at h
    split at h
    · split at h
      · cases h
      · obtain ⟨_, -, heq⟩ := Option.map_eq_some_iff.1 h
        cases heq
    · split at h
      · cases h
      · obtain ⟨_, -, heq⟩ := Option.map_eq_some_iff.1 h
        cases heq
    · exact h
  obtain ⟨⟨c, t, hskip, hc⟩, happend⟩ := readScalar_append hscalar hafter
  have hskip' : skipSpace (s ++ after) = c :: (t ++ after) := by
    rw [skipSpace] at hskip ⊢
    rw [List.dropWhile_append, hskip]
    rfl
  rw [read_of_skipSpace hskip' (hc.ne (by decide) rfl) (hc.ne (by decide) rfl), ← happend, hskip]
  rfl

theorem head?_toDigits {n : Nat} (h : 0 < n) : (Nat.toDigits 10 n).head? ≠ some '0' := by
  induction n using Nat.strongRecOn with
  | ind n ih =>
    by_cases hbase : 10 ≤ n
    · rw [Nat.toDigits_of_base_le (by decide) hbase,
        List.head?_append_of_ne_nil _ Nat.toDigits_ne_nil]
      exact ih (n / 10) (by omega) (by omega)
    · have hdigit : ∀ d < 10, 0 < d → Nat.digitChar d ≠ '0' := by decide
      rw [Nat.toDigits_of_lt_base (by omega), List.head?_cons]
      exact fun heq => hdigit n (by omega) h (Option.some.inj heq)

def Numeral.ofNat (n : Nat) : Numeral := ⟨false, Nat.toDigits 10 n, none, none⟩

theorem Numeral.toNat?_ofNat {most n : Nat} (h : n ≤ most) :
    (Numeral.ofNat n).toNat? most = some n := by
  simp [Numeral.toNat?, Numeral.ofNat, h]

theorem readUnsigned_ofNat (n : Nat) :
    readUnsigned false (Text.ofNat n) = some (.ofNat n, []) := by
  have hdigits : readDigits? (Text.ofNat n) = some (Nat.toDigits 10 n, []) := by
    have hall := List.all_eq_true.1 (Text.all_isDigit_toDigits n)
    have hne : Nat.toDigits 10 n ≠ [] := Nat.toDigits_ne_nil
    rw [readDigits?, Text.ofNat, List.takeWhile_eq_self_iff.2 hall,
      List.dropWhile_eq_nil_iff.2 hall]
    simp [hne]
  have hzero : ¬((Nat.toDigits 10 n).head? = some '0' ∧ (Nat.toDigits 10 n).length > 1) := by
    rintro ⟨hhead, hlength⟩
    rcases Nat.eq_zero_or_pos n with rfl | hn
    · exact absurd hlength (by decide)
    · exact head?_toDigits hn hhead
  rw [readUnsigned, hdigits]
  simp only [Option.bind_eq_bind, Option.bind_some, if_neg hzero]
  rfl

theorem readsAs_ofNat (n : Nat) : ReadsAs (Text.ofNat n) (.number (.ofNat n)) := by
  obtain ⟨c, t, hn, hc⟩ := exists_cons_of_readUnsigned (readUnsigned_ofNat n)
  have hstart : StartsNumber c := .inr hc
  refine readsAs_of_read ?_
  have hspace : isSpace c = false := by
    simp only [isSpace, Bool.or_eq_false_iff, beq_eq_false_iff_ne]
    exact ⟨⟨⟨hstart.ne (by decide) rfl, hstart.ne (by decide) rfl⟩, hstart.ne (by decide) rfl⟩,
      hstart.ne (by decide) rfl⟩
  rw [hn, read_cons hspace (hstart.ne (by decide) rfl) (hstart.ne (by decide) rfl),
    readScalar_of_isDigit hc, ← hn, readUnsigned_ofNat]
  rfl

/-- The number that `s` stands for in single precision, if it is a number and nothing else. -/
def single? (s : Text) : Option Number.Single :=
  match read s with
  | some (.number n, []) => n.toSingle?
  | _ => none

theorem exists_readsAs_of_single? {s : Text} {x : Number.Single} (h : single? s = some x) :
    ∃ n : Numeral, n.toSingle? = some x ∧ ReadsAs s (.number n) := by
  unfold single? at h
  split at h
  · next n hread => exact ⟨n, h, readsAs_of_read hread⟩
  · cases h

/-! ### Objects -/

/-- A member as it is written: its name and its value. -/
def writeMember (member : Text × Text) : Text := quote member.1 ++ ':' :: member.2

/-- Whether `writeMember` writes what is read as this key and value. -/
def ReadsMember (member : Text × Text) (read : Option Text × Json) : Prop :=
  read.1 = some member.1 ∧ ReadsAs member.2 read.2

theorem readKey_quote (key rest : Text) :
    readKey (quote key ++ ':' :: rest) = some (some key, rest) := by
  have hquote : quote key ++ ':' :: rest =
      '"' :: (key.flatMap escape ++ '"' :: ':' :: rest) := by simp [quote]
  have hskip : ∀ t : Text, skipSpace ('"' :: t) = '"' :: t ∧ skipSpace (':' :: t) = ':' :: t :=
    fun t => ⟨rfl, rfl⟩
  rw [hquote, readKey, (hskip _).1]
  simp only [readString_flatMap_escape, Option.bind_eq_bind, Option.bind_some, (hskip rest).2]
  rfl

theorem length_le_join (sep : Char) (pieces : List Text) :
    pieces.length ≤ (Text.join sep pieces).length + 1 := by
  induction pieces with
  | nil => exact Nat.zero_le _
  | cons piece pieces ih =>
    cases pieces with
    | nil => simp
    | cons next pieces =>
      rw [List.length_cons] at ih
      rw [Text.join, List.length_append, List.length_cons, List.length_cons, List.length_cons]
      omega

/-- `documentMembers` reads written members in order, up to the end of their object. -/
theorem documentMembers_join {members : List (Text × Text)} {values : List (Option Text × Json)}
    (h : List.Forall₂ ReadsMember members values) (hne : members ≠ []) {steps : Nat}
    (hsteps : members.length ≤ steps) :
    documentMembers steps (Text.join ',' (members.map writeMember) ++ ['\x7d']) =
      (values, true) := by
  induction h generalizing steps with
  | nil => exact absurd rfl hne
  | @cons member value members values hmember hmembers ih =>
    obtain ⟨key, json⟩ := value
    obtain ⟨hkey, hvalue⟩ := hmember
    cases hkey
    cases steps with
    | zero => cases hsteps
    | succ steps =>
      cases hmembers with
      | nil =>
        have hend : EndsValue ['\x7d'] := .inr rfl
        rw [List.map_singleton, Text.join, writeMember, List.append_assoc, List.cons_append,
          documentMembers, readKey_quote]
        simp only [hvalue _ hend]
        rfl
      | @cons next value' members values hnext hmembers =>
        have hrest := ih (List.cons_ne_nil _ _) (Nat.le_of_succ_le_succ hsteps)
        rw [List.map_cons] at hrest
        have hend : ∀ t, EndsValue (',' :: t) := fun t => .inl rfl
        rw [List.map_cons, List.map_cons, Text.join, writeMember, List.append_assoc,
          List.append_assoc, List.cons_append, List.cons_append, documentMembers, readKey_quote]
        simp only [hvalue _ (hend _)]
        have hskip : ∀ t : Text, skipSpace (',' :: t) = ',' :: t := fun t => rfl
        simp only [hskip, hrest]

/-- `Document.read` takes a written object apart into its members. -/
theorem read_writeObject {members : List (Text × Text)} {values : List (Option Text × Json)}
    (h : List.Forall₂ ReadsMember members values) (hne : members ≠ []) :
    Document.read (writeObject members) = .object values true := by
  have hwritten : writeObject members =
      '\x7b' :: (Text.join ',' (members.map writeMember) ++ ['\x7d']) := rfl
  have hskip : ∀ t : Text, skipSpace ('\x7b' :: t) = '\x7b' :: t ∧
      skipSpace ('"' :: t) = '"' :: t := fun t => ⟨rfl, rfl⟩
  have hsteps : members.length ≤ (writeObject members).length := by
    have hlength := length_le_join ',' (members.map writeMember)
    rw [List.length_map] at hlength
    rw [hwritten, List.length_cons, List.length_append]
    omega
  obtain ⟨t, ht⟩ : ∃ t, Text.join ',' (members.map writeMember) ++ ['\x7d'] = '"' :: t := by
    cases members with
    | nil => exact absurd rfl hne
    | cons member members =>
      cases members with
      | nil => exact ⟨_, rfl⟩
      | cons next members => exact ⟨_, rfl⟩
  have hmembers := documentMembers_join h hne hsteps
  rw [ht] at hmembers hwritten
  rw [Document.read, hwritten, (hskip _).1]
  simp only [(hskip _).2]
  rw [← hwritten, hmembers]
  rfl

/-! ### Records -/

namespace Record

variable {F R ε : Type} [DecidableEq F] {r : Record F R ε} {name : F → Text} {json : F → Json}

/-- `setMembers` on members that name distinct fields sets these in order. -/
theorem setMembers_fields {fields seen : List F} {value : R}
    (hname : ∀ f ∈ fields, r.field? (name f) = some f) (hnodup : fields.Nodup)
    (hseen : ∀ f ∈ fields, f ∉ seen) :
    r.setMembers seen value (fields.map fun f => (some (name f), json f)) =
      fields.foldlM (fun value f => r.set f (json f) value) value := by
  induction fields generalizing seen value with
  | nil => rfl
  | cons f fields ih =>
    rw [List.forall_mem_cons] at hname hseen
    obtain ⟨hfirst, hnodup⟩ := List.nodup_cons.1 hnodup
    rw [List.map_cons, setMembers, hname.1, List.foldlM_cons]
    simp only [if_neg hseen.1]
    cases r.set f (json f) value with
    | error e => rfl
    | ok value =>
      refine ih hname.2 hnodup fun f' hf' => ?_
      rw [List.mem_cons, not_or]
      exact ⟨fun heq => hfirst (heq ▸ hf'), hseen.2 f' hf'⟩

/-- `Record.read` takes each field from the value that is written for it. -/
theorem read_writeObject {fields : List F} {text : F → Text} (hne : fields ≠ [])
    (hname : ∀ f ∈ fields, r.field? (name f) = some f) (hnodup : fields.Nodup)
    (hreads : ∀ f ∈ fields, ReadsAs (text f) (json f)) :
    r.read (writeObject (fields.map fun f => (name f, text f))) =
      fields.foldlM (fun value f => r.set f (json f) value) r.start := by
  have hmembers : List.Forall₂ ReadsMember (fields.map fun f => (name f, text f))
      (fields.map fun f => (some (name f), json f)) := by
    rw [List.forall₂_map_left_iff, List.forall₂_map_right_iff, List.forall₂_same]
    exact fun f hf => ⟨rfl, hreads f hf⟩
  have hset : r.setMembers [] r.start (fields.map fun f => (some (name f), json f)) =
      fields.foldlM (fun value f => r.set f (json f) value) r.start :=
    setMembers_fields hname hnodup fun _ _ => List.not_mem_nil
  rw [read, Json.read_writeObject hmembers (by simpa using hne)]
  simp only [hset]
  cases fields.foldlM (fun value f => r.set f (json f) value) r.start with
  | error e => rfl
  | ok value => rfl

end Record

end ReceiptPrinter.Json

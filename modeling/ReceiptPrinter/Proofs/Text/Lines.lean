import ReceiptPrinter.Markup.Line

/-!
# Splitting and joining

`splitOn` finds pieces without the separator again in their joined text, and no piece of a text
holds the separator. `contains` finds a phrase wherever it stands. `trim` gives a part of a text,
and gives it back if there is none. A line loses at most one carriage return, the last one.
-/

namespace ReceiptPrinter.Text

section
variable {sep : Char}

theorem splitOn_append (s t : Text) :
    splitOn sep (s ++ sep :: t) = splitOn sep s ++ splitOn sep t := by
  induction s with
  | nil => simp [splitOn]
  | cons c s ih =>
    rw [List.cons_append, splitOn, splitOn, ih]
    split
    · rfl
    · cases hs : splitOn sep s with
      | nil => exact absurd hs (splitOn_ne_nil sep s)
      | cons p pieces => rfl

theorem splitOn_of_not_mem {s : Text} (h : sep ∉ s) : splitOn sep s = [s] := by
  induction s with
  | nil => rfl
  | cons c s ih =>
    simp only [List.mem_cons, not_or] at h
    simp only [splitOn, if_neg (Ne.symm h.1), ih h.2]

theorem splitOn_append_sep {s : Text} (h : sep ∉ s) (t : Text) :
    splitOn sep (s ++ sep :: t) = s :: splitOn sep t := by
  rw [splitOn_append, splitOn_of_not_mem h, List.singleton_append]

theorem splitOn_join_eq_flatMap {pieces : List Text} (hne : pieces ≠ []) :
    splitOn sep (join sep pieces) = pieces.flatMap (splitOn sep) := by
  induction pieces with
  | nil => exact absurd rfl hne
  | cons p pieces ih =>
    cases pieces with
    | nil => rw [join, List.flatMap_singleton]
    | cons q rest =>
      rw [join, splitOn_append, ih (List.cons_ne_nil q rest)]
      rfl

theorem flatMap_splitOn {pieces : List Text} (h : ∀ p ∈ pieces, sep ∉ p) :
    pieces.flatMap (splitOn sep) = pieces := by
  induction pieces with
  | nil => rfl
  | cons p pieces ih =>
    rw [List.forall_mem_cons] at h
    rw [List.flatMap_cons, splitOn_of_not_mem h.1, ih h.2]
    rfl

/-- `splitOn` inverts `join` on pieces that do not hold the separator. -/
theorem splitOn_join {pieces : List Text} (hne : pieces ≠ []) (h : ∀ p ∈ pieces, sep ∉ p) :
    splitOn sep (join sep pieces) = pieces := by
  rw [splitOn_join_eq_flatMap hne, flatMap_splitOn h]

theorem not_mem_of_mem_splitOn {s p : Text} (h : p ∈ splitOn sep s) : sep ∉ p := by
  induction s generalizing p with
  | nil =>
    rw [splitOn, List.mem_singleton] at h
    simp [h]
  | cons c s ih =>
    unfold splitOn at h
    split at h
    · rcases List.mem_cons.1 h with rfl | h
      · simp
      · exact ih h
    · next hc =>
      split at h
      · next heq => exact absurd heq (splitOn_ne_nil sep s)
      · next q qs heq =>
        rcases List.mem_cons.1 h with rfl | h
        · rw [List.mem_cons, not_or]
          exact ⟨Ne.symm hc, ih (by simp [heq])⟩
        · exact ih (by simp [heq, h])

theorem infix_join {pieces : List Text} {p : Text} (h : p ∈ pieces) : p <:+: join sep pieces := by
  induction pieces with
  | nil => cases h
  | cons q pieces ih =>
    cases pieces with
    | nil =>
      rw [List.mem_singleton.1 h]
      exact List.infix_rfl
    | cons r rest =>
      rw [join]
      rcases List.mem_cons.1 h with rfl | h
      · exact (List.prefix_append p _).isInfix
      · exact (ih h).trans ((List.suffix_cons sep _).trans (List.suffix_append q _)).isInfix

theorem infix_of_mem_splitOn {s p : Text} (h : p ∈ splitOn sep s) : p <:+: s := by
  have hp : p <:+: join sep (splitOn sep s) := infix_join h
  rwa [join_splitOn] at hp

end

/-! ### Phrases -/

/-- `contains` finds exactly the phrases that stand in `s`. -/
theorem contains_iff {phrase s : Text} : contains phrase s = true ↔ phrase <:+: s := by
  unfold contains
  induction s with
  | nil =>
    rw [splitAt?, List.infix_nil]
    split
    · next h => exact iff_of_true rfl (List.isEmpty_iff.1 h)
    · next h => exact iff_of_false (by simp) fun hnil => h (List.isEmpty_iff.2 hnil)
  | cons c s ih =>
    rw [splitAt?, List.infix_cons_iff, ← List.isPrefixOf_iff_prefix]
    split
    · next h => exact iff_of_true rfl (.inl h)
    · next h => rw [Option.isSome_map, ih, or_iff_right h]

/-! ### Letter case -/

@[simp] theorem length_lower (s : Text) : (lower s).length = s.length := List.length_map _

theorem lower_append (s t : Text) : lower (s ++ t) = lower s ++ lower t := List.map_append

theorem eq_of_toLower_eq {c d : Char} (h : Char.toLower d = c) (hc : c.toNat < 97) : d = c := by
  unfold Char.toLower at h
  split at h
  · next hd =>
    -- a letter in lower case stands after those in upper case
    have hle : 65 ≤ d.val.toNat := UInt32.le_iff_toNat_le.1 hd.1
    have hle' : d.val.toNat ≤ 90 := UInt32.le_iff_toNat_le.1 hd.2
    have hval : d.val + ('a'.val - 'A'.val) = c.val := congrArg Char.val h
    have hnat : (d.val.toNat + 32) % 2 ^ 32 = c.toNat := by
      rw [← Char.toNat_val, ← hval, UInt32.toNat_add]
      rfl
    omega
  · exact h

/-- The characters of ASCII may be checked one by one. -/
theorem forall_ascii {P : Char → Prop} (h : ∀ n < 128, P (Char.ofNat n)) (c : Char)
    (hc : c.toNat < 128) : P c := by
  have hchar := h c.toNat hc
  rwa [Char.ofNat_toNat] at hchar

/-- Functions that agree on ASCII agree on ASCII text. -/
theorem map_congr_ascii {f g : Char → Char}
    (h : ∀ n < 128, f (Char.ofNat n) = g (Char.ofNat n)) {s : Text} (hs : s.all isAscii = true) :
    s.map f = s.map g := by
  refine List.map_congr_left fun c hc => ?_
  have hascii : c.toNat < 128 := of_decide_eq_true (List.all_eq_true.1 hs c hc)
  exact forall_ascii (P := fun c => f c = g c) h c hascii

theorem lower_upper {s : Text} (hs : s.all isAscii = true) : lower (upper s) = lower s := by
  rw [lower, lower, upper, List.map_map]
  exact map_congr_ascii (by decide +kernel) hs

theorem upper_lower {s : Text} (hs : s.all isAscii = true) : upper (lower s) = upper s := by
  rw [lower, upper, upper, List.map_map]
  exact map_congr_ascii (by decide +kernel) hs

/-! ### White space around a text -/

theorem trimStart_suffix (s : Text) : trimStart s <:+ s := List.dropWhile_suffix _

theorem trimEnd_isPrefix (s : Text) : trimEnd s <+: s := by
  have h := List.dropWhile_suffix isBlank (l := s.reverse)
  rw [← List.reverse_prefix, List.reverse_reverse] at h
  exact h

theorem trim_infix (s : Text) : trim s <:+: s :=
  (trimEnd_isPrefix _).isInfix.trans (trimStart_suffix s).isInfix

theorem mem_dropWhile {c : Char} {p : Char → Bool} {s : Text} (hmem : c ∈ s) (hc : p c = false) :
    c ∈ s.dropWhile p := by
  have hsplit : s.takeWhile p ++ s.dropWhile p = s := List.takeWhile_append_dropWhile
  rw [← hsplit, List.mem_append] at hmem
  refine hmem.resolve_left fun htake => ?_
  rw [List.all_eq_true.1 List.all_takeWhile c htake] at hc
  cases hc

theorem mem_trim {c : Char} {s : Text} (hmem : c ∈ s) (hc : isBlank c = false) : c ∈ trim s := by
  have hstart : c ∈ (trimStart s).reverse := List.mem_reverse.2 (mem_dropWhile hmem hc)
  exact List.mem_reverse.2 (mem_dropWhile hstart hc)

theorem trimStart_of_head? {s : Text} (h : ∀ c ∈ s.head?, isBlank c = false) : trimStart s = s := by
  cases s with
  | nil => rfl
  | cons c s =>
    have hc : isBlank c = false := h c (by simp)
    simp [trimStart, hc]

theorem trimEnd_of_getLast? {s : Text} (h : ∀ c ∈ s.getLast?, isBlank c = false) :
    trimEnd s = s := by
  have := trimStart_of_head? (s := s.reverse) (by rwa [List.head?_reverse])
  rw [trimEnd, ← trimStart, this, List.reverse_reverse]

/-- `trim` leaves a text alone that has no white space at its ends. -/
theorem trim_of_ends {s : Text} (hfirst : ∀ c ∈ s.head?, isBlank c = false)
    (hlast : ∀ c ∈ s.getLast?, isBlank c = false) : trim s = s := by
  rw [trim, trimStart_of_head? hfirst, trimEnd_of_getLast? hlast]

theorem trim_of_not_blank {s : Text} (h : ∀ c ∈ s, isBlank c = false) : trim s = s :=
  trim_of_ends (fun c hc => h c (List.mem_of_mem_head? hc))
    fun c hc => h c (List.mem_of_mem_getLast? hc)

theorem head?_trimStart {s : Text} {c : Char} (h : c ∈ (trimStart s).head?) :
    isBlank c = false := by
  have hnot := List.head?_dropWhile_not isBlank s
  rw [← trimStart, Option.mem_def.1 h] at hnot
  exact hnot

theorem trim_trim (s : Text) : trim (trim s) = trim s := by
  refine trim_of_ends (fun c hc => ?_) fun c hc => ?_
  · have hpre := trimEnd_isPrefix (trimStart s)
    cases ht : trim s with
    | nil => simp [ht] at hc
    | cons d t =>
      have hd : c = d := by simpa [ht] using hc.symm
      obtain ⟨u, hu⟩ := hpre
      rw [← trim, ht] at hu
      exact head?_trimStart (s := s) (by rw [← hu, hd]; simp)
  · rw [trim, trimEnd, ← trimStart, List.getLast?_reverse] at hc
    exact head?_trimStart hc

/-! ### Control characters -/

/-- What holds of all characters of a text is decided along the text. -/
instance (priority := high) decidableForallMem (s : Text) (p : Char → Prop) [DecidablePred p] :
    Decidable (∀ c ∈ s, p c) := List.decidableBAll p s

/-- Whether `s` holds none of the control characters that stand before the blank. -/
def Visible (s : Text) : Prop := ∀ c ∈ s, 32 ≤ c.toNat

instance (s : Text) : Decidable (Visible s) := decidableForallMem s _

@[simp] theorem visible_append {s t : Text} : Visible (s ++ t) ↔ Visible s ∧ Visible t :=
  List.forall_mem_append

theorem Visible.count_eq_zero {s : Text} (h : Visible s) {c : Char} (hc : c.toNat < 32) :
    s.count c = 0 := by
  rw [List.count_eq_zero]
  intro hmem
  have hle := h c hmem
  omega

/-! ### Line endings -/

theorem chomp_isPrefix (line : Text) : chomp line <+: line := by
  unfold chomp
  split
  · exact List.dropLast_prefix line
  · exact List.prefix_rfl

theorem chomp_of_getLast? {line : Text} (h : line.getLast? ≠ some '\r') : chomp line = line :=
  if_neg h

theorem count_chomp_lt {line : Text} (h : line.getLast? = some '\r') :
    (chomp line).count '\r' < line.count '\r' := by
  have hne : line ≠ [] := by rintro rfl; simp at h
  have hsplit := List.dropLast_concat_getLast hne
  rw [List.getLast?_eq_some_getLast hne, Option.some.injEq] at h
  rw [chomp, if_pos (by rw [List.getLast?_eq_some_getLast hne, h])]
  conv => rhs; rw [← hsplit, h]
  simp

theorem count_chomp_le (c : Char) (line : Text) : (chomp line).count c ≤ line.count c :=
  (chomp_isPrefix line).sublist.count_le c

theorem count_flatten_chomp_le (lines : List Text) (c : Char) :
    (lines.map chomp).flatten.count c ≤ lines.flatten.count c := by
  induction lines with
  | nil => exact Nat.le_refl _
  | cons line lines ih =>
    rw [List.map_cons, List.flatten_cons, List.flatten_cons, List.count_append, List.count_append]
    exact Nat.add_le_add (count_chomp_le c line) ih

/-- A line that ends with a carriage return loses it to `chomp`. -/
theorem count_flatten_chomp_lt {lines : List Text} {line : Text} (hmem : line ∈ lines)
    (hline : line.getLast? = some '\r') :
    (lines.map chomp).flatten.count '\r' < lines.flatten.count '\r' := by
  obtain ⟨before, after, rfl⟩ := List.append_of_mem hmem
  have hbefore := count_flatten_chomp_le before '\r'
  have hafter := count_flatten_chomp_le after '\r'
  have hlt := count_chomp_lt hline
  simp only [List.map_append, List.map_cons, List.flatten_append, List.flatten_cons,
    List.count_append]
  omega

end ReceiptPrinter.Text

namespace ReceiptPrinter.Markup

theorem not_mem_of_mem_splitLines {x line : Text} (h : line ∈ splitLines x) : '\n' ∉ line := by
  obtain ⟨piece, hp, rfl⟩ := List.mem_map.1 h
  exact fun hc => Text.not_mem_of_mem_splitOn hp ((Text.chomp_isPrefix piece).subset hc)

theorem splitLines_ne_nil (x : Text) : splitLines x ≠ [] := by
  simp [splitLines, Text.splitOn_ne_nil]

theorem splitLines_join_eq_flatMap {lines : List Text} (hne : lines ≠ []) :
    splitLines (Text.join '\n' lines) = lines.flatMap splitLines := by
  rw [splitLines, Text.splitOn_join_eq_flatMap hne, List.map_flatMap]
  rfl

theorem flatMap_splitLines {lines : List Text} (h : ∀ l ∈ lines, '\n' ∉ l) :
    lines.flatMap splitLines = lines.map Text.chomp := by
  have hmap : lines.flatMap splitLines = (lines.flatMap (Text.splitOn '\n')).map Text.chomp :=
    List.map_flatMap.symm
  rw [hmap, Text.flatMap_splitOn h]

/-- `splitLines` of joined lines is each of them after `chomp`. -/
theorem splitLines_join {lines : List Text} (hne : lines ≠ []) (h : ∀ l ∈ lines, '\n' ∉ l) :
    splitLines (Text.join '\n' lines) = lines.map Text.chomp := by
  rw [splitLines_join_eq_flatMap hne, flatMap_splitLines h]

end ReceiptPrinter.Markup

import Mathlib.Data.List.Basic
import ReceiptPrinter.Proofs.Except
import ReceiptPrinter.Proofs.Markup.Attribute

/-!
# The written forms of attributes

The attributes of a tag are written one after the other, with any white space before, between and
after them. An attribute is a key in any letter case, an equals sign with any white space around it,
and a value between two quotes of one kind. `Rendering` holds such a form. `parseAttributes` accepts
exactly the renderings whose keys differ in more than letter case, and refuses one in which a key
comes twice at the first key that has been there before.
-/

namespace ReceiptPrinter.Markup

namespace Attribute

/-! ### Forms -/

abbrev Blanks := { s : Text // IsBlanks s }

/-- An attribute as it may be written. -/
structure Spelling where
  name : Text
  beforeEquals : Blanks
  afterEquals : Blanks
  quote : Char
  value : Text
  name_ne_nil : name ≠ []
  name_chars : ∀ c ∈ name, isKeyChar c = true
  quote_eq : quote = '\'' ∨ quote = '"'
  quote_notMem : quote ∉ value

namespace Spelling

def text (w : Spelling) : Text :=
  w.name ++ (w.beforeEquals.1 ++ '=' :: (w.afterEquals.1 ++ w.quote :: (w.value ++ [w.quote])))

/-- The attribute that `w` writes: letter case does not matter in its key. -/
def toAttribute (w : Spelling) : Attribute := ⟨Text.lower w.name, w.value⟩

end Spelling

/-- Attributes as they may be written in a tag: each with the white space after it. -/
structure Rendering where
  start : Blanks
  spellings : List (Spelling × Blanks)

namespace Rendering

def text (r : Rendering) : Text := r.start.1 ++ r.spellings.flatMap fun w => w.1.text ++ w.2.1

def attributes (r : Rendering) : List Attribute := r.spellings.map fun w => w.1.toAttribute

def keys (r : Rendering) : List Text := r.attributes.map key

end Rendering

/-- Whether `k` is the first of `keys` that has been there before. -/
def FirstRepeated (k : Text) (keys : List Text) : Prop :=
  ∃ before after, keys = before ++ k :: after ∧ before.Nodup ∧ k ∈ before

/-! ### Keys that come twice -/

/-- Whether the keys of `as` differ from each other and from those in `seen`. -/
def NewKeys (seen : List Text) (as : List Attribute) : Prop :=
  (as.map key).Nodup ∧ ∀ a ∈ as, a.key ∉ seen

theorem newKeys_cons {seen : List Text} {a : Attribute} {as : List Attribute} :
    NewKeys seen (a :: as) ↔ a.key ∉ seen ∧ NewKeys (a.key :: seen) as := by
  unfold NewKeys
  rw [List.map_cons, List.nodup_cons, List.forall_mem_cons, List.mem_map]
  constructor
  · rintro ⟨⟨hother, hnodup⟩, hkey, hseen⟩
    refine ⟨hkey, hnodup, fun b hb hmem => ?_⟩
    rcases List.mem_cons.1 hmem with heq | hmem
    · exact hother ⟨b, hb, heq⟩
    · exact hseen b hb hmem
  · rintro ⟨hkey, hnodup, hseen⟩
    refine ⟨⟨fun ⟨b, hb, heq⟩ => hseen b hb ?_, hnodup⟩, hkey, fun b hb hmem => hseen b hb ?_⟩
    · rw [heq]
      exact List.mem_cons_self
    · exact List.mem_cons_of_mem _ hmem

/-- The attributes, unless the key of one is among the keys before it. -/
def distinct (seen : List Text) : List Attribute → Except Fault (List Attribute)
  | [] => .ok []
  | a :: as =>
    if seen.contains a.key then .error (.duplicateAttribute a.key)
    else (distinct (a.key :: seen) as).map (a :: ·)

theorem distinct_cons {seen : List Text} {a : Attribute} {as : List Attribute} :
    distinct seen (a :: as) = if a.key ∈ seen then .error (.duplicateAttribute a.key)
      else (distinct (a.key :: seen) as).map (a :: ·) := by
  simp only [distinct, List.contains_iff_mem]

theorem distinct_eq_ok {seen : List Text} {as bs : List Attribute}
    (h : distinct seen as = .ok bs) : bs = as ∧ NewKeys seen as := by
  induction as generalizing seen bs with
  | nil =>
    cases h
    exact ⟨rfl, List.nodup_nil, fun a ha => absurd ha List.not_mem_nil⟩
  | cons a as ih =>
    rw [distinct_cons] at h
    split at h
    · cases h
    · next hkey =>
      obtain ⟨cs, hcs, rfl⟩ := map_eq_ok_iff.1 h
      obtain ⟨rfl, hnew⟩ := ih hcs
      exact ⟨rfl, newKeys_cons.2 ⟨hkey, hnew⟩⟩

/-- `distinct` fails at the first attribute whose key has been there before. -/
theorem distinct_eq_error {seen : List Text} {as : List Attribute} {fault : Fault}
    (h : distinct seen as = .error fault) :
    ∃ before a after, as = before ++ a :: after ∧ fault = .duplicateAttribute a.key ∧
      NewKeys seen before ∧ (a.key ∈ seen ∨ a.key ∈ before.map key) := by
  induction as generalizing seen with
  | nil => cases h
  | cons a as ih =>
    rw [distinct_cons] at h
    split at h
    · next hkey =>
      cases h
      have hnone : NewKeys seen [] := ⟨List.nodup_nil, fun a ha => absurd ha List.not_mem_nil⟩
      exact ⟨[], a, as, rfl, rfl, hnone, .inl hkey⟩
    · next hkey =>
      obtain ⟨before, b, after, rfl, rfl, hnew, hb⟩ := ih (map_eq_error_iff.1 h)
      refine ⟨a :: before, b, after, rfl, rfl, newKeys_cons.2 ⟨hkey, hnew⟩, ?_⟩
      rw [List.mem_cons] at hb
      rw [List.map_cons, List.mem_cons]
      tauto

/-! ### Reading a form -/

theorem read_text (w : Spelling) (rest : Text) :
    read (w.text ++ rest) = .ok (w.toAttribute, rest) := by
  unfold Spelling.text
  simp only [List.append_assoc, List.cons_append, List.nil_append]
  exact read_blanks w.name_ne_nil w.name_chars w.beforeEquals.2 w.afterEquals.2 w.quote_eq
    w.quote_notMem

theorem trimStart_text (w : Spelling) (rest : Text) :
    Text.trimStart (w.text ++ rest) = w.text ++ rest := by
  apply Text.trimStart_of_head?
  intro c hc
  obtain ⟨d, name, hname⟩ := List.exists_cons_of_ne_nil w.name_ne_nil
  have hd : d = c := by simpa [Spelling.text, hname] using hc
  rw [← hd]
  apply not_isBlank_of_isKeyChar
  apply w.name_chars
  rw [hname]
  exact List.mem_cons_self

theorem readAll_rendering (seen : List Text) (r : Rendering) :
    readAll seen r.text = distinct seen r.attributes := by
  obtain ⟨start, spellings⟩ := r
  unfold Rendering.text Rendering.attributes
  induction spellings generalizing seen start with
  | nil =>
    have hstart : Text.trimStart (start.1 ++ []) = [] := start.2.trimStart_append []
    rw [List.flatMap_nil, readAll]
    simp only [hstart]
    rfl
  | cons w spellings ih =>
    simp only [List.flatMap_cons, List.append_assoc, List.map_cons]
    have hstart := start.2.trimStart_append
      (w.1.text ++ (w.2.1 ++ spellings.flatMap fun w => w.1.text ++ w.2.1))
    rw [trimStart_text] at hstart
    rw [readAll_eq_of_read hstart (read_text w.1 _), distinct_cons, ih]

/-! ### What is read is a form -/

theorem exists_blanks_append (s : Text) : ∃ start : Blanks, start.1 ++ Text.trimStart s = s :=
  ⟨⟨s.takeWhile Text.isBlank, fun _ hc => List.all_eq_true.1 List.all_takeWhile _ hc⟩,
    List.takeWhile_append_dropWhile⟩

theorem exists_spelling_of_read {s rest : Text} {a : Attribute} (h : read s = .ok (a, rest)) :
    ∃ w : Spelling, w.toAttribute = a ∧ s = w.text ++ rest := by
  unfold read at h
  simp only at h
  split at h
  · cases h
  · next hname =>
    split at h
    · next afterEquals hequals =>
      split at h
      · next quote body hbody =>
        split at h
        · next hquote =>
          split at h
          · next c tail hclose =>
            cases h
            obtain ⟨before, hbefore⟩ := exists_blanks_append (s.dropWhile isKeyChar)
            obtain ⟨after, hafter⟩ := exists_blanks_append afterEquals
            have hc : c = quote := by
              have hnot := List.head?_dropWhile_not (· != quote) body
              rw [hclose] at hnot
              simpa using hnot
            refine ⟨⟨s.takeWhile isKeyChar, before, after, quote, body.takeWhile (· != quote),
              by simpa using hname, fun _ hd => List.all_eq_true.1 List.all_takeWhile _ hd, hquote,
              fun hd => by simpa using List.all_eq_true.1 List.all_takeWhile _ hd⟩, rfl, ?_⟩
            -- each piece of the text is what one step has skipped or taken
            calc s = s.takeWhile isKeyChar ++ s.dropWhile isKeyChar :=
                  List.takeWhile_append_dropWhile.symm
              _ = s.takeWhile isKeyChar ++ (before.1 ++ '=' :: afterEquals) := by
                  rw [← hequals, hbefore]
              _ = s.takeWhile isKeyChar ++ (before.1 ++ '=' :: (after.1 ++ quote :: body)) := by
                  rw [← hbody, hafter]
              _ = s.takeWhile isKeyChar ++ (before.1 ++ '=' :: (after.1 ++ quote ::
                    (body.takeWhile (· != quote) ++ quote :: rest))) := by
                  rw [← hc, ← hclose, hc, List.takeWhile_append_dropWhile]
              _ = _ := by simp [Spelling.text]
          · cases h
        · cases h
      · cases h
    · cases h

theorem exists_rendering_of_readAll {seen : List Text} {s : Text} {as : List Attribute}
    (h : readAll seen s = .ok as) : ∃ r : Rendering, r.text = s := by
  fun_induction readAll seen s generalizing as
  case case1 seen s start hempty =>
    obtain ⟨blanks, hblanks⟩ := exists_blanks_append s
    refine ⟨⟨blanks, []⟩, ?_⟩
    have hnil : Text.trimStart s = [] := List.isEmpty_iff.1 hempty
    rw [hnil] at hblanks
    exact hblanks
  case case2 => cases h
  case case3 => cases h
  case case4 seen s start hempty a rest hread hkey ih =>
    obtain ⟨blanks, hblanks⟩ := exists_blanks_append s
    obtain ⟨bs, hbs, -⟩ := map_eq_ok_iff.1 h
    obtain ⟨w, -, hw⟩ : ∃ w : Spelling, w.toAttribute = a ∧ Text.trimStart s = w.text ++ rest :=
      exists_spelling_of_read hread
    obtain ⟨r, rfl⟩ := ih hbs
    refine ⟨⟨blanks, (w, r.start) :: r.spellings⟩, ?_⟩
    rw [← hblanks, hw]
    simp [Rendering.text]

end Attribute

open Attribute

/-- `parseAttributes` reads a `Rendering` as its attributes if no key comes twice, and fails at the
first one that does. It accepts nothing else. -/
theorem parseAttributes_rendering :
    (∀ r : Rendering, r.keys.Nodup → parseAttributes r.text = .ok r.attributes) ∧
    (∀ r : Rendering, ¬r.keys.Nodup → ∃ k, FirstRepeated k r.keys ∧
      parseAttributes r.text = .error (.duplicateAttribute k)) ∧
    ∀ s as, parseAttributes s = .ok as →
      (as.map key).Nodup ∧ ∃ r : Rendering, r.text = s ∧ r.attributes = as := by
  have hread : ∀ r : Rendering, parseAttributes r.text = distinct [] r.attributes :=
    readAll_rendering []
  refine ⟨fun r hnodup => ?_, fun r hnodup => ?_, fun s as h => ?_⟩
  · rw [hread]
    cases hdistinct : distinct [] r.attributes with
    | ok as => rw [(distinct_eq_ok hdistinct).1]
    | error fault =>
      obtain ⟨before, a, after, has, -, -, ha⟩ := distinct_eq_error hdistinct
      exfalso
      unfold Rendering.keys at hnodup
      rw [has, List.map_append, List.map_cons, List.nodup_append] at hnodup
      exact hnodup.2.2 _ (ha.resolve_left List.not_mem_nil) _ List.mem_cons_self rfl
  · rw [hread]
    cases hdistinct : distinct [] r.attributes with
    | ok as => exact absurd (distinct_eq_ok hdistinct).2.1 hnodup
    | error fault =>
      obtain ⟨before, a, after, has, rfl, hbefore, ha⟩ := distinct_eq_error hdistinct
      refine ⟨a.key, ⟨before.map key, after.map key, ?_, hbefore.1,
        ha.resolve_left List.not_mem_nil⟩, rfl⟩
      unfold Rendering.keys
      rw [has, List.map_append, List.map_cons]
  · obtain ⟨r, rfl⟩ := exists_rendering_of_readAll h
    rw [hread] at h
    obtain ⟨rfl, hnew⟩ := distinct_eq_ok h
    exact ⟨hnew.1, r, rfl, rfl⟩

def noBlanks : Blanks := ⟨[], fun _ hc => absurd hc List.not_mem_nil⟩

def oneBlank : Blanks := ⟨[' '], by unfold IsBlanks; decide⟩

def quotedSize : Spelling where
  name := "SIZE".toList
  beforeEquals := oneBlank
  afterEquals := ⟨['\t'], by unfold IsBlanks; decide⟩
  quote := '"'
  value := "='4'".toList
  name_ne_nil := by decide
  name_chars := by decide
  quote_eq := by decide
  quote_notMem := by decide

def emptyValued (name : Text) (h : name ≠ [] ∧ ∀ c ∈ name, isKeyChar c = true) : Spelling where
  name := name
  beforeEquals := noBlanks
  afterEquals := noBlanks
  quote := '\''
  value := []
  name_ne_nil := h.1
  name_chars := h.2
  quote_eq := by decide
  quote_notMem := List.not_mem_nil

theorem parseAttributes_size :
    parseAttributes " SIZE =\t\"='4'\"x_1='' ".toList =
        .ok [⟨"size".toList, "='4'".toList⟩, ⟨"x_1".toList, []⟩] ∧
      (∃ k, FirstRepeated k ["size".toList, "size".toList] ∧
        parseAttributes "SIZE =\t\"='4'\" size=''".toList = .error (.duplicateAttribute k)) ∧
      ∃ r : Rendering, r.text = "a = 'b'".toList ∧ r.attributes = [⟨"a".toList, "b".toList⟩] := by
  obtain ⟨hread, hrefused, hform⟩ := parseAttributes_rendering
  refine ⟨?_, ?_, ?_⟩
  · exact hread ⟨oneBlank, [(quotedSize, noBlanks),
      (emptyValued "x_1".toList (by decide), oneBlank)]⟩ (by decide)
  · exact hrefused ⟨noBlanks, [(quotedSize, oneBlank),
      (emptyValued "size".toList (by decide), noBlanks)]⟩ (by decide)
  · exact (hform _ _ (by decide +kernel)).2

end ReceiptPrinter.Markup

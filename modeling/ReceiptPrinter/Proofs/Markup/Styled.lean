import ReceiptPrinter.Proofs.Markup.Concatenation
import ReceiptPrinter.Proofs.Markup.Phrase

/-!
# Styled text

Lines of text, alignment tags and style tags are read if and only if the style tags of every line
are `Nested`. Reading then gives the elements of `LinesShow`: line by line, a run for every stretch
of text between tags, with the alignment that the latest tag of all lines so far set and the style
of the tags around it, and a feed for every stretch of lines without text.
-/

namespace ReceiptPrinter.Markup

/-! ### Nested style tags -/

/-- Whether the style tags of a line are nested and all closed. -/
inductive Nested : List Phrase → Prop
  | nil : Nested []
  | text {content : Text} {rest : List Phrase} (hrest : Nested rest) :
    Nested (.text content :: rest)
  | align {a : Align} {rest : List Phrase} (hrest : Nested rest) : Nested (.align a :: rest)
  | pair {tag : StyleTag} {inner name : Text} {inside rest : List Phrase}
    (hname : Text.lower name = tag.name) (hinside : Nested inside) (hrest : Nested rest) :
    Nested (.opening tag inner :: (inside ++ .closing name :: rest))

/-- The style tags that are open after phrases, the innermost first: what follows the tag of each up
to the next is nested and closed. -/
inductive Inside : List Phrase → List StyleTag → Prop
  | nil {before : List Phrase} (hbefore : Nested before) : Inside before []
  | cons {before since : List Phrase} {tag : StyleTag} {inner : Text} {tags : List StyleTag}
    (hbefore : Inside before tags) (hsince : Nested since) :
    Inside (before ++ .opening tag inner :: since) (tag :: tags)

/-- Whether text inside `tags`, the innermost first, looks like `style`. -/
structure Wears (tags : List StyleTag) (style : TextStyle) : Prop where
  bold : style.bold = true ↔ .bold ∈ tags
  underline : style.underline = true ↔ .underline ∈ tags
  /-- The innermost font gives the size. -/
  size : (∃ inner outer, tags = inner ++ .font style.size :: outer ∧ ∀ size, .font size ∉ inner) ∨
    style.size = .normal ∧ ∀ size, .font size ∉ tags

/-! ### What lines show -/

/-- The alignment that the latest of `phrases` set. -/
def latestAlign (phrases : List Phrase) : Align :=
  (phrases.filterMap Phrase.align?).getLast?.getD .left

/-- The runs of the rest of a line, given the phrases of the lines before it and those that stand
before the rest. -/
inductive LineRuns (earlier : List Phrase) : List Phrase → List Phrase → List TextRun → Prop
  | nil (before : List Phrase) : LineRuns earlier before [] []
  | tag {before rest : List Phrase} {p : Phrase} {runs : List TextRun} (hp : p.isText = false)
    (hrest : LineRuns earlier (before ++ [p]) rest runs) : LineRuns earlier before (p :: rest) runs
  | stretch {before texts rest : List Phrase} {tags : List StyleTag} {style : TextStyle}
    {runs : List TextRun} (hne : texts ≠ []) (htexts : ∀ p ∈ texts, p.isText = true)
    (hnext : ∀ p ∈ rest.head?, p.isText = false) (htags : Inside before tags)
    (hstyle : Wears tags style) (hrest : LineRuns earlier (before ++ texts) rest runs) :
    LineRuns earlier before (texts ++ rest)
      ({ content := lineText texts, align := latestAlign (earlier ++ before), style
         endsLine := runs.isEmpty } :: runs)

def hasText (line : List Phrase) : Bool := line.any Phrase.isText

/-- The elements of lines, given the phrases of the lines before them. -/
inductive LinesShow : List Phrase → List (List Phrase) → List Element → Prop
  | nil (earlier : List Phrase) : LinesShow earlier [] []
  | text {earlier line : List Phrase} {lines : List (List Phrase)} {runs : List TextRun}
    {es : List Element} (hline : hasText line = true) (hruns : LineRuns earlier [] line runs)
    (hrest : LinesShow (earlier ++ line) lines es) :
    LinesShow earlier (line :: lines) (runs.map .text ++ es)
  | feed {earlier : List Phrase} {blanks lines : List (List Phrase)} {es : List Element}
    (hne : blanks ≠ []) (hblanks : ∀ line ∈ blanks, hasText line = false)
    (hnext : ∀ line ∈ lines.head?, hasText line = true)
    (hrest : LinesShow (earlier ++ blanks.flatten) lines es) :
    LinesShow earlier (blanks ++ lines) (.feed blanks.length :: es)

/-! ### Stretches -/

/-- A list taken apart into stretches of entries with `f`, as long as possible, and single entries
without it. -/
inductive Stretched {α : Type} (f : α → Bool) : List α → Prop
  | nil : Stretched f []
  | single {x : α} {rest : List α} (hx : f x = false) (hrest : Stretched f rest) :
    Stretched f (x :: rest)
  | stretch {xs rest : List α} (hne : xs ≠ []) (hxs : ∀ x ∈ xs, f x = true)
    (hnext : ∀ x ∈ rest.head?, f x = false) (hrest : Stretched f rest) : Stretched f (xs ++ rest)

theorem stretched {α : Type} (f : α → Bool) (xs : List α) : Stretched f xs := by
  induction xs with
  | nil => exact .nil
  | cons x xs ih =>
    cases hx : f x with
    | false => exact .single hx ih
    | true =>
      have hone : ∀ y ∈ [x], f y = true := by simpa using hx
      cases ih with
      | nil => exact .stretch (List.cons_ne_nil x []) hone (by simp) .nil
      | single hy hrest =>
        refine .stretch (List.cons_ne_nil x []) hone ?_ (.single hy hrest)
        simpa using hy
      | @stretch ys rest hne hys hnext hrest =>
        exact .stretch (List.cons_ne_nil x ys) (List.forall_mem_cons.2 ⟨hx, hys⟩) hnext hrest

/-! ### Open styles -/

/-- The styles that are open after `phrases`, if every closing tag closes the last one. -/
def openAfter (tags : List StyleTag) (phrases : List Phrase) : Option (List StyleTag) :=
  phrases.foldlM styleStep tags

@[simp] theorem openAfter_cons (tags : List StyleTag) (p : Phrase) (rest : List Phrase) :
    openAfter tags (p :: rest) = styleStep tags p >>= fun tags => openAfter tags rest :=
  List.foldlM_cons

@[simp] theorem openAfter_append (tags : List StyleTag) (xs ys : List Phrase) :
    openAfter tags (xs ++ ys) = openAfter tags xs >>= fun tags => openAfter tags ys :=
  List.foldlM_append

theorem Nested.append {xs ys : List Phrase} (hx : Nested xs) (hy : Nested ys) :
    Nested (xs ++ ys) := by
  induction hx with
  | nil => exact hy
  | text _ ih => exact .text ih
  | align _ ih => exact .align ih
  | pair hname hinside _ _ ih =>
    rw [List.cons_append, List.append_assoc, List.cons_append]
    exact .pair hname hinside ih

theorem nested_texts {texts : List Phrase} (h : ∀ p ∈ texts, p.isText = true) :
    Nested texts := by
  induction texts with
  | nil => exact .nil
  | cons p texts ih =>
    obtain ⟨hp, htexts⟩ := List.forall_mem_cons.1 h
    cases p with
    | text content => exact .text (ih htexts)
    | align | opening | closing => cases hp

theorem Nested.openAfter_eq {phrases : List Phrase} (h : Nested phrases) (tags : List StyleTag) :
    openAfter tags phrases = some tags := by
  induction h generalizing tags with
  | nil => rfl
  | text _ ih => exact ih tags
  | align _ ih => exact ih tags
  | @pair tag inner name inside rest hname _ _ ihinside ihrest =>
    rw [openAfter_cons]
    show openAfter (tag :: tags) (inside ++ .closing name :: rest) = some tags
    rw [openAfter_append, ihinside]
    show openAfter (tag :: tags) (.closing name :: rest) = some tags
    rw [openAfter_cons, styleStep, if_pos hname.symm]
    exact ihrest tags

theorem Inside.append {before phrases : List Phrase} {tags : List StyleTag}
    (h : Inside before tags) (hphrases : Nested phrases) : Inside (before ++ phrases) tags := by
  cases h with
  | nil hbefore => exact .nil (hbefore.append hphrases)
  | cons hbefore hsince =>
    rw [List.append_assoc, List.cons_append]
    exact .cons hbefore (hsince.append hphrases)

theorem Inside.openAfter_eq {before : List Phrase} {tags : List StyleTag}
    (h : Inside before tags) : openAfter [] before = some tags := by
  induction h with
  | nil hbefore => exact hbefore.openAfter_eq []
  | @cons before since tag inner tags _ hsince ih =>
    rw [openAfter_append, ih]
    exact hsince.openAfter_eq (tag :: tags)

/-- A closing tag that `styleStep` accepts ends the pair of the last open tag. -/
theorem Inside.step {before : List Phrase} {tags tags' : List StyleTag} {p : Phrase}
    (h : Inside before tags) (hstep : styleStep tags p = some tags') :
    Inside (before ++ [p]) tags' := by
  cases p with
  | text content =>
    cases hstep
    exact h.append (.text .nil)
  | align a =>
    cases hstep
    exact h.append (.align .nil)
  | opening tag inner =>
    cases hstep
    exact .cons h .nil
  | closing name =>
    cases h with
    | nil => cases hstep
    | @cons before since tag inner tags hbefore hsince =>
      simp only [styleStep] at hstep
      split at hstep
      · next hname =>
        cases hstep
        rw [List.append_assoc, List.cons_append]
        exact hbefore.append (.pair hname.symm hsince .nil)
      · cases hstep

theorem Inside.openAfter {before phrases : List Phrase} {tags tags' : List StyleTag}
    (h : Inside before tags) (hopen : openAfter tags phrases = some tags') :
    Inside (before ++ phrases) tags' := by
  induction phrases generalizing before tags with
  | nil =>
    cases hopen
    rwa [List.append_nil]
  | cons p rest ih =>
    rw [openAfter_cons, Option.bind_eq_bind, Option.bind_eq_some_iff] at hopen
    obtain ⟨next, hstep, hopen⟩ := hopen
    rw [List.append_cons]
    exact ih (h.step hstep) hopen

theorem nested_iff {line : List Phrase} : Nested line ↔ openAfter [] line = some [] := by
  constructor
  · exact fun h => h.openAfter_eq []
  · intro hopen
    have hinside : Inside line [] := (Inside.nil .nil).openAfter hopen
    cases hinside with
    | nil h => exact h

example : ¬Nested [.opening .bold "b".toList, .opening .underline "u".toList,
    .closing "b".toList, .closing "u".toList] := by
  rw [nested_iff]
  decide

/-! ### Styles -/

theorem wears_style (tags : List StyleTag) : Wears tags (StyleTag.style tags) := by
  constructor
  case bold => exact List.contains_iff_mem
  case underline => exact List.contains_iff_mem
  case size =>
    cases hsize : tags.findSome? StyleTag.size? with
    | none =>
      right
      refine ⟨by rw [StyleTag.style, hsize]; rfl, fun size hmem => ?_⟩
      cases List.findSome?_eq_none_iff.1 hsize _ hmem
    | some size =>
      left
      obtain ⟨inner, tag, outer, rfl, htag, hinner⟩ := List.findSome?_eq_some_iff.1 hsize
      have hfont : tag = .font size := by
        cases tag with
        | bold | underline => cases htag
        | font _ => cases htag; rfl
      have heq : (StyleTag.style (inner ++ tag :: outer)).size = size := by
        rw [StyleTag.style, hsize]
        rfl
      refine ⟨inner, outer, by rw [heq, hfont], fun size hmem => ?_⟩
      cases hinner _ hmem

theorem Wears.eq {tags : List StyleTag} {style : TextStyle} (h : Wears tags style) :
    style = StyleTag.style tags := by
  have hbold : style.bold = tags.contains .bold := by
    rw [Bool.eq_iff_iff, h.bold, List.contains_iff_mem]
  have hunderline : style.underline = tags.contains .underline := by
    rw [Bool.eq_iff_iff, h.underline, List.contains_iff_mem]
  have hnone : ∀ tags : List StyleTag, (∀ size, .font size ∉ tags) →
      tags.findSome? StyleTag.size? = none := by
    intro tags hfont
    rw [List.findSome?_eq_none_iff]
    intro tag hmem
    cases tag with
    | bold | underline => rfl
    | font size => exact absurd hmem (hfont size)
  have hsize : style.size = (tags.findSome? StyleTag.size?).getD .normal := by
    obtain ⟨inner, outer, htags, hinner⟩ | ⟨hnormal, hfont⟩ := h.size
    · rw [htags, List.findSome?_append, hnone inner hinner]
      rfl
    · rw [hnone tags hfont, hnormal]
      rfl
  rw [StyleTag.style, ← hbold, ← hunderline, ← hsize]

/-! ### Reading a line -/

theorem latestAlign_concat (phrases : List Phrase) (p : Phrase) :
    latestAlign (phrases ++ [p]) = p.align?.getD (latestAlign phrases) := by
  rw [latestAlign, List.filterMap_append]
  cases p with
  | align a =>
    show ((phrases.filterMap Phrase.align? ++ [a]).getLast?).getD .left = a
    rw [List.getLast?_concat]
    rfl
  | text | opening | closing =>
    show ((phrases.filterMap Phrase.align? ++ []).getLast?).getD .left = _
    rw [List.append_nil]
    rfl

theorem latestAlign_append_texts (phrases : List Phrase) {texts : List Phrase}
    (h : ∀ p ∈ texts, p.isText = true) :
    latestAlign (phrases ++ texts) = latestAlign phrases := by
  have hnone : texts.filterMap Phrase.align? = [] := by
    rw [List.filterMap_eq_nil_iff]
    intro p hp
    cases p with
    | align a => cases h _ hp
    | text | opening | closing => rfl
  rw [latestAlign, List.filterMap_append, hnone, List.append_nil]
  rfl

theorem openAfter_texts_append {texts : List Phrase} (h : ∀ p ∈ texts, p.isText = true)
    (tags : List StyleTag) (rest : List Phrase) :
    openAfter tags (texts ++ rest) = openAfter tags rest := by
  rw [openAfter_append, (nested_texts h).openAfter_eq]
  rfl

theorem openAfter_of_readItems {a : Align} {tags : List StyleTag} {phrases : List Phrase}
    {reading : LineReading} (hwritten : ∀ p ∈ phrases, p.IsWritten)
    (h : readItems a tags (tokens (lineText phrases)) = .ok reading) :
    openAfter tags phrases = some reading.styles := by
  have hparts := stretched Phrase.isText phrases
  induction hparts generalizing a tags reading with
  | nil =>
    cases (show readItems a tags (tokens []) = .ok ⟨[], a, tags⟩ by rw [tokens]; rfl).symm.trans h
    rfl
  | @single p rest hp _ ih =>
    obtain ⟨hpw, hrest⟩ := List.forall_mem_cons.1 hwritten
    rw [openAfter_cons]
    cases hstep : styleStep tags p with
    | none =>
      obtain ⟨e, he⟩ := readItems_of_styleStep_eq_none hpw hstep a (lineText rest)
      cases he.symm.trans h
    | some next =>
      rw [lineText_cons, readItems_of_styleStep hp hpw hstep] at h
      exact ih hrest h
  | stretch hne htexts hnext _ ih =>
    obtain ⟨htextsw, hrest⟩ := List.forall_mem_append.1 hwritten
    rw [lineText_append, readItems_texts hne htexts htextsw (atTag_lineText hnext hrest)] at h
    obtain ⟨following, hfollowing, h⟩ := bind_eq_ok_iff.1 h
    cases h
    rw [openAfter_texts_append htexts]
    have hopen := ih hrest hfollowing
    exact hopen

/-- `LineRuns` exist for a line whose closing tags close the last style. -/
theorem exists_lineRuns (earlier : List Phrase) {before phrases : List Phrase}
    {tags tags' : List StyleTag} (hinside : Inside before tags)
    (hopen : openAfter tags phrases = some tags') :
    ∃ runs, LineRuns earlier before phrases runs := by
  have hparts := stretched Phrase.isText phrases
  induction hparts generalizing before tags with
  | nil => exact ⟨[], .nil before⟩
  | @single p rest hp _ ih =>
    rw [openAfter_cons, Option.bind_eq_bind, Option.bind_eq_some_iff] at hopen
    obtain ⟨next, hstep, hopen⟩ := hopen
    obtain ⟨runs, hruns⟩ := ih (hinside.step hstep) hopen
    exact ⟨runs, .tag hp hruns⟩
  | stretch hne htexts hnext _ ih =>
    rw [openAfter_texts_append htexts] at hopen
    obtain ⟨runs, hruns⟩ := ih (hinside.append (nested_texts htexts)) hopen
    exact ⟨_, .stretch hne htexts hnext hinside (wears_style tags) hruns⟩

section
variable {earlier before phrases : List Phrase} {runs : List TextRun}

/-- `readItems` gives the runs of `LineRuns`; `Inside` carries the styles that are open. -/
theorem LineRuns.readItems_eq (h : LineRuns earlier before phrases runs)
    (hwritten : ∀ p ∈ phrases, p.IsWritten) {tags tags' : List StyleTag}
    (hinside : Inside before tags) (hopen : openAfter tags phrases = some tags') :
    readItems (latestAlign (earlier ++ before)) tags (tokens (lineText phrases)) =
      .ok ⟨runs.map .ofRun, latestAlign (earlier ++ before ++ phrases), tags'⟩ := by
  induction h generalizing tags with
  | nil before =>
    cases hopen
    show readItems _ _ (tokens []) = _
    rw [tokens, List.append_nil]
    rfl
  | @tag before rest p runs hp _ ih =>
    obtain ⟨hpw, hrest⟩ := List.forall_mem_cons.1 hwritten
    rw [openAfter_cons, Option.bind_eq_bind, Option.bind_eq_some_iff] at hopen
    obtain ⟨next, hstep, hopen⟩ := hopen
    have hread := ih hrest (hinside.step hstep) hopen
    rw [← List.append_assoc, latestAlign_concat, List.append_assoc, List.singleton_append] at hread
    rw [lineText_cons, readItems_of_styleStep hp hpw hstep]
    exact hread
  | @stretch before texts rest _ style runs hne htexts hnext htags hstyle _ ih =>
    obtain ⟨htextsw, hrest⟩ := List.forall_mem_append.1 hwritten
    rw [openAfter_texts_append htexts] at hopen
    have hread := ih hrest (hinside.append (nested_texts htexts)) hopen
    rw [← List.append_assoc, latestAlign_append_texts _ htexts] at hread
    -- the tags around the stretch are those that are open in the reading
    cases hinside.openAfter_eq.symm.trans htags.openAfter_eq
    rw [lineText_append, readItems_texts hne htexts htextsw (atTag_lineText hnext hrest), hread,
      ok_bind, hstyle.eq, ← List.append_assoc]
    rfl

theorem LineRuns.elements_eq (h : LineRuns earlier before phrases runs) :
    LineItem.elements (runs.map .ofRun) = runs.map .text := by
  induction h with
  | nil => rfl
  | tag _ _ ih => exact ih
  | @stretch _ _ _ _ _ runs _ _ _ _ _ _ ih =>
    rw [List.map_cons, List.map_cons, ← ih]
    cases runs <;> rfl

theorem LineRuns.eq_nil_iff (h : LineRuns earlier before phrases runs) :
    runs = [] ↔ hasText phrases = false := by
  induction h with
  | nil => exact ⟨fun _ => rfl, fun _ => rfl⟩
  | tag hp _ ih => rw [ih, hasText, hasText, List.any_cons, hp, Bool.false_or]
  | @stretch _ texts _ _ _ _ hne htexts _ _ _ _ _ =>
    obtain ⟨p, texts, rfl⟩ := List.exists_cons_of_ne_nil hne
    have hp := htexts p List.mem_cons_self
    simp [hasText, hp]

/-- `parseLine` reads a `Nested` line as its runs, or as a feed if it has no text. -/
theorem LineRuns.parseLine_eq (h : LineRuns earlier [] phrases runs)
    (hwritten : ∀ p ∈ phrases, p.IsWritten) (hnested : Nested phrases) :
    parseLine (latestAlign earlier) (lineText phrases) =
      .ok (latestAlign (earlier ++ phrases),
        if hasText phrases then runs.map .text else [.feed 1]) := by
  have hread := h.readItems_eq hwritten (.nil .nil) (hnested.openAfter_eq [])
  rw [List.append_nil] at hread
  rw [parseLine, hread, ok_bind]
  by_cases hruns : runs = []
  · rw [h.eq_nil_iff.1 hruns, hruns]
    rfl
  · have htext : hasText phrases = true :=
      Bool.not_eq_false _ ▸ mt h.eq_nil_iff.2 hruns
    rw [htext, if_pos rfl]
    show Except.ok (_, finishLine (runs.map .ofRun)) = _
    rw [finishLine_ofRun hruns, h.elements_eq]

end

theorem exists_lineRuns_of_nested (earlier : List Phrase) {line : List Phrase}
    (h : Nested line) : ∃ runs, LineRuns earlier [] line runs :=
  exists_lineRuns earlier (.nil .nil) (h.openAfter_eq [])

theorem nested_of_parseLine {a : Align} {line : List Phrase} {r : Align × List Element}
    (hwritten : ∀ p ∈ line, p.IsWritten) (h : parseLine a (lineText line) = .ok r) :
    Nested line := by
  obtain ⟨reading, hreading, h⟩ := bind_eq_ok_iff.1 h
  have hopen := openAfter_of_readItems hwritten hreading
  split at h
  · next hstyles =>
    rw [hstyles] at hopen
    exact nested_iff.2 hopen
  · cases h

/-! ### Reading lines -/

theorem exists_linesShow {lines : List (List Phrase)} (h : ∀ line ∈ lines, Nested line)
    (earlier : List Phrase) : ∃ es, LinesShow earlier lines es := by
  have hparts := stretched (fun line => !hasText line) lines
  induction hparts generalizing earlier with
  | nil => exact ⟨[], .nil earlier⟩
  | @single line rest hline _ ih =>
    obtain ⟨hnested, hrest⟩ := List.forall_mem_cons.1 h
    obtain ⟨runs, hruns⟩ := exists_lineRuns_of_nested earlier hnested
    obtain ⟨es, hes⟩ := ih hrest (earlier ++ line)
    exact ⟨_, .text (by simpa using hline) hruns hes⟩
  | @stretch blanks rest hne hblanks hnext _ ih =>
    obtain ⟨-, hrest⟩ := List.forall_mem_append.1 h
    obtain ⟨es, hes⟩ := ih hrest (earlier ++ blanks.flatten)
    exact ⟨_, .feed hne (by simpa using hblanks) (by simpa using hnext) hes⟩

theorem nested_of_parseLines {a : Align} {lines : List (List Phrase)} {es : List Element}
    (hwritten : ∀ line ∈ lines, ∀ p ∈ line, p.IsWritten)
    (h : parseLines a (lines.map lineText) = .ok es) : ∀ line ∈ lines, Nested line := by
  induction lines generalizing a es with
  | nil => exact fun line hline => absurd hline List.not_mem_nil
  | cons line lines ih =>
    obtain ⟨hline, hlines⟩ := List.forall_mem_cons.1 hwritten
    obtain ⟨⟨next, first⟩, hfirst, h⟩ := bind_eq_ok_iff.1 h
    obtain ⟨following, hfollowing, -⟩ := bind_eq_ok_iff.1 h
    exact List.forall_mem_cons.2 ⟨nested_of_parseLine hline hfirst, ih hlines hfollowing⟩

/-- Lines without text are feeds of one line. -/
theorem parseLines_blanks_append {blanks : List (List Phrase)}
    (hwritten : ∀ line ∈ blanks, ∀ p ∈ line, p.IsWritten) (hnested : ∀ line ∈ blanks, Nested line)
    (hblanks : ∀ line ∈ blanks, hasText line = false) (earlier : List Phrase)
    {lines : List Text} {es : List Element}
    (h : parseLines (latestAlign (earlier ++ blanks.flatten)) lines = .ok es) :
    parseLines (latestAlign earlier) (blanks.map lineText ++ lines) =
      .ok (List.replicate blanks.length (.feed 1) ++ es) := by
  induction blanks generalizing earlier with
  | nil =>
    rw [List.flatten_nil, List.append_nil] at h
    exact h
  | cons line blanks ih =>
    obtain ⟨hline, hlines⟩ := List.forall_mem_cons.1 hwritten
    obtain ⟨hnest, hnests⟩ := List.forall_mem_cons.1 hnested
    obtain ⟨hblank, hrest⟩ := List.forall_mem_cons.1 hblanks
    obtain ⟨runs, hruns⟩ := exists_lineRuns_of_nested earlier hnest
    have hfirst := hruns.parseLine_eq hline hnest
    rw [hblank] at hfirst
    rw [List.flatten_cons, ← List.append_assoc] at h
    have hfollowing := ih hlines hnests hrest (earlier ++ line) h
    rw [List.map_cons, List.cons_append, parseLines, hfirst, ok_bind]
    simp only [hfollowing, ok_bind]
    rfl

theorem mergeFeeds_runs_append (runs : List TextRun) (es : List Element) :
    mergeFeeds (runs.map .text ++ es) = runs.map .text ++ mergeFeeds es := by
  induction runs with
  | nil => rfl
  | cons run runs ih =>
    rw [List.map_cons, List.cons_append, mergeFeeds_cons_of_ne (by simp), ih, List.cons_append]

theorem mergeFeeds_replicate_append {n : Nat} (hn : n ≠ 0) {es : List Element}
    (hfirst : ∀ e ∈ (mergeFeeds es).head?, ∀ n, e ≠ .feed n) :
    mergeFeeds (List.replicate n (.feed 1) ++ es) = .feed n :: mergeFeeds es := by
  have hone : mergeFeeds (List.replicate n (.feed 1)) = mergeFeeds [.feed n] := by
    rw [mergeFeeds_replicate_feed, if_neg hn]
    rfl
  rw [mergeFeeds_append_congr hone (mergeFeeds_mergeFeeds es).symm, List.singleton_append,
    mergeFeeds_feed_cons, mergeFeeds_mergeFeeds]
  cases hes : mergeFeeds es with
  | nil => rfl
  | cons e rest => exact consFeed_of_ne (hfirst e (by rw [hes]; rfl)) rest

section
variable {earlier : List Phrase} {lines : List (List Phrase)} {es : List Element}

theorem LinesShow.head?_ne_feed (h : LinesShow earlier lines es)
    (hnext : ∀ line ∈ lines.head?, hasText line = true) : ∀ e ∈ es.head?, ∀ n, e ≠ .feed n := by
  cases h with
  | nil => simp
  | text hline hruns _ =>
    have hne := mt hruns.eq_nil_iff.1 (by rw [hline]; exact Bool.noConfusion)
    obtain ⟨run, runs, rfl⟩ := List.exists_cons_of_ne_nil hne
    simp
  | feed hne hblanks _ _ =>
    obtain ⟨blank, blanks, rfl⟩ := List.exists_cons_of_ne_nil hne
    have htext := hnext blank rfl
    rw [hblanks blank List.mem_cons_self] at htext
    cases htext

/-- `parseLines` reads `Nested` lines as the elements of `LinesShow`. -/
theorem LinesShow.exists_parseLines (h : LinesShow earlier lines es)
    (hwritten : ∀ line ∈ lines, ∀ p ∈ line, p.IsWritten) (hnested : ∀ line ∈ lines, Nested line) :
    ∃ read, parseLines (latestAlign earlier) (lines.map lineText) = .ok read ∧
      mergeFeeds read = es := by
  induction h with
  | nil => exact ⟨[], rfl, rfl⟩
  | @text earlier line lines runs es hline hruns _ ih =>
    obtain ⟨hlinew, hlinesw⟩ := List.forall_mem_cons.1 hwritten
    obtain ⟨hnest, hnests⟩ := List.forall_mem_cons.1 hnested
    obtain ⟨read, hread, hmerge⟩ := ih hlinesw hnests
    have hfirst := hruns.parseLine_eq hlinew hnest
    rw [hline, if_pos rfl] at hfirst
    refine ⟨runs.map .text ++ read, ?_, by rw [mergeFeeds_runs_append, hmerge]⟩
    rw [List.map_cons, parseLines, hfirst, ok_bind]
    simp only [hread, ok_bind]
    rfl
  | @feed earlier blanks lines es hne hblanks hnext hshow ih =>
    obtain ⟨hblanksw, hlinesw⟩ := List.forall_mem_append.1 hwritten
    obtain ⟨hnests, hnests'⟩ := List.forall_mem_append.1 hnested
    obtain ⟨read, hread, hmerge⟩ := ih hlinesw hnests'
    have hfirst : ∀ e ∈ (mergeFeeds read).head?, ∀ n, e ≠ .feed n := by
      rw [hmerge]
      exact hshow.head?_ne_feed hnext
    refine ⟨List.replicate blanks.length (.feed 1) ++ read, ?_, ?_⟩
    · rw [List.map_append]
      exact parseLines_blanks_append hblanksw hnests hblanks earlier hread
    · rw [mergeFeeds_replicate_append (mt List.length_eq_zero_iff.1 hne) hfirst, hmerge]

end

/-! ### Sheets -/

/-- How a line ends. -/
inductive LineEnd where
  | lineFeed
  | carriageReturnLineFeed
  deriving DecidableEq, Repr

def LineEnd.text : LineEnd → Text
  | .lineFeed => ['\n']
  | .carriageReturnLineFeed => ['\r', '\n']

/-- Lines with their ends, and a last line that has none. -/
structure Sheet where
  ended : List (List Phrase × LineEnd)
  last : List Phrase
  deriving DecidableEq, Repr

namespace Sheet

def lines (sheet : Sheet) : List (List Phrase) := sheet.ended.map Prod.fst ++ [sheet.last]

def text (sheet : Sheet) : Text :=
  (sheet.ended.flatMap fun line => lineText line.1 ++ line.2.text) ++ lineText sheet.last

end Sheet

theorem chomp_of_not_mem {s : Text} (h : '\r' ∉ s) : Text.chomp s = s :=
  Text.chomp_of_getLast? fun hlast => h (List.mem_of_getLast? hlast)

theorem splitLines_append_end {s : Text} (hfeed : '\n' ∉ s) (hreturn : '\r' ∉ s) (e : LineEnd)
    (t : Text) : splitLines (s ++ e.text ++ t) = s :: splitLines t := by
  cases e with
  | lineFeed =>
    rw [LineEnd.text, List.append_assoc, List.singleton_append, splitLines,
      Text.splitOn_append_sep hfeed, List.map_cons, chomp_of_not_mem hreturn]
    rfl
  | carriageReturnLineFeed =>
    have hfeed' : '\n' ∉ s ++ ['\r'] := by
      rw [List.mem_append, not_or]
      exact ⟨hfeed, by decide⟩
    have htext : s ++ LineEnd.carriageReturnLineFeed.text ++ t = s ++ ['\r'] ++ '\n' :: t := by
      rw [LineEnd.text]
      simp
    have hchomp : Text.chomp (s ++ ['\r']) = s := by
      rw [Text.chomp, if_pos List.getLast?_concat, List.dropLast_concat]
    rw [htext, splitLines, Text.splitOn_append_sep hfeed', List.map_cons, hchomp]
    rfl

theorem Sheet.splitLines_text {sheet : Sheet}
    (hwritten : ∀ line ∈ sheet.lines, ∀ p ∈ line, p.IsWritten) :
    splitLines sheet.text = sheet.lines.map lineText := by
  obtain ⟨ended, last⟩ := sheet
  induction ended with
  | nil =>
    obtain ⟨hfeed, hreturn⟩ := not_mem_lineText (hwritten last List.mem_cons_self)
    show (Text.splitOn '\n' (lineText last)).map Text.chomp = [lineText last]
    rw [Text.splitOn_of_not_mem hfeed, List.map_singleton, chomp_of_not_mem hreturn]
  | cons line ended ih =>
    obtain ⟨hline, hrest⟩ := List.forall_mem_cons.1 hwritten
    obtain ⟨hfeed, hreturn⟩ := not_mem_lineText hline
    have htext : Sheet.text ⟨line :: ended, last⟩ =
        lineText line.1 ++ line.2.text ++ Sheet.text ⟨ended, last⟩ := by
      rw [Sheet.text, List.flatMap_cons, List.append_assoc]
      rfl
    rw [htext, splitLines_append_end hfeed hreturn, ih hrest]
    rfl

/-- `parse` accepts a sheet if and only if its style tags are nested on every line, and gives the
elements of `LinesShow` for it. -/
theorem parse_sheet {sheet : Sheet} (hwritten : ∀ line ∈ sheet.lines, ∀ p ∈ line, p.IsWritten) :
    ((∃ es, parse sheet.text = .ok es) ↔ ∀ line ∈ sheet.lines, Nested line) ∧
    ∀ es, parse sheet.text = .ok es ↔
      (∀ line ∈ sheet.lines, Nested line) ∧ LinesShow [] sheet.lines es := by
  have hparse : parse sheet.text =
      (parseLines (latestAlign []) (sheet.lines.map lineText)).map mergeFeeds := by
    rw [parse, Sheet.splitLines_text hwritten]
    rfl
  have hnested : ∀ es, parse sheet.text = .ok es → ∀ line ∈ sheet.lines, Nested line := by
    intro es h
    rw [hparse] at h
    obtain ⟨read, hread, -⟩ := map_eq_ok_iff.1 h
    exact nested_of_parseLines hwritten hread
  have hshow : ∀ es, (∀ line ∈ sheet.lines, Nested line) → LinesShow [] sheet.lines es →
      parse sheet.text = .ok es := by
    intro es hnested h
    obtain ⟨read, hread, hmerge⟩ := h.exists_parseLines hwritten hnested
    rw [hparse, hread, Except.map, hmerge]
  constructor
  · constructor
    · rintro ⟨es, h⟩
      exact hnested es h
    · intro hall
      obtain ⟨es, hes⟩ := exists_linesShow hall []
      exact ⟨es, hshow es hall hes⟩
  · intro es
    constructor
    · intro h
      have hall := hnested es h
      obtain ⟨es', hes'⟩ := exists_linesShow hall []
      cases h.symm.trans (hshow es' hall hes')
      exact ⟨hall, hes'⟩
    · exact fun h => hshow es h.1 h.2

def priceSheet : Sheet where
  ended :=
    [([.align .center, .opening .bold "B".toList, .text "Tea ".toList, .opening .underline "u".toList,
      .text "today".toList, .closing "U".toList, .text "!".toList, .closing "b".toList],
      .carriageReturnLineFeed), ([], .lineFeed), ([.align .right], .lineFeed)]
  last := [.opening (.font .big) "Font SIZE = \"Big\"".toList, .text "9.00".toList,
    .closing "FONT".toList]

theorem parse_sheet_priceSheet :
    (∀ line ∈ priceSheet.lines, ∀ p ∈ line, p.IsWritten) ∧
    (∀ line ∈ priceSheet.lines, Nested line) ∧
    ∃ es, parse priceSheet.text = .ok es ∧ LinesShow [] priceSheet.lines es := by
  have hgap : IsGap " ".toList := by
    intro c hc
    cases List.mem_singleton.1 hc
    decide
  have hfont : Opens (.font .big) "Font SIZE = \"Big\"".toList :=
    .sized (by rfl : Text.lower "Font".toList = _) (List.cons_ne_nil _ _) hgap
      (by rfl : Text.lower "SIZE".toList = _) hgap hgap (.inr rfl)
      (by rfl : Text.lower "Big".toList = _) (by simp [IsGap] : IsGap [])
  have hbold : Opens .bold "B".toList := .plain rfl (by simp)
  have hunderline : Opens .underline "u".toList := .plain rfl (by simp)
  have hwritten : ∀ line ∈ priceSheet.lines, ∀ p ∈ line, p.IsWritten := by
    have hnil : ∀ p ∈ ([] : List Phrase), p.IsWritten := by simp
    simp only [priceSheet, Sheet.lines, List.map_cons, List.map_nil, List.cons_append,
      List.nil_append, List.forall_mem_cons]
    exact ⟨⟨trivial, hbold, ⟨by decide, by decide⟩, hunderline, ⟨by decide, by decide⟩,
      ⟨.underline, rfl⟩, ⟨by decide, by decide⟩, ⟨.bold, rfl⟩, hnil⟩, hnil, ⟨trivial, hnil⟩,
      ⟨hfont, ⟨by decide, by decide⟩, ⟨.font .big, rfl⟩, hnil⟩, by simp⟩
  have hnested : ∀ line ∈ priceSheet.lines, Nested line := by
    simp only [nested_iff]
    decide
  obtain ⟨hiff, hreads⟩ := parse_sheet hwritten
  obtain ⟨es, hes⟩ := hiff.2 hnested
  exact ⟨hwritten, hnested, es, hes, ((hreads es).1 hes).2⟩

end ReceiptPrinter.Markup

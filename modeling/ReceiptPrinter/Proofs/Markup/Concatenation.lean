import ReceiptPrinter.Proofs.Markup.Canonical

/-!
# Markup one piece after the other

A line that begins with an alignment tag reads the same whatever alignment holds before it, and
feeds in a row can be merged piece by piece. Lines that `StandFor` elements, whatever comes before
them, read as these elements in order when they are joined to one markup.
-/

namespace ReceiptPrinter.Markup

/-! ### Feeds -/

/-- Puts a feed of `m` lines before elements, joining it to a feed that comes first. -/
def consFeed (m : Nat) : List Element → List Element
  | .feed n :: rest => .feed (m + n) :: rest
  | es => .feed m :: es

theorem consFeed_of_ne {m : Nat} {e : Element} (he : ∀ n, e ≠ .feed n) (es : List Element) :
    consFeed m (e :: es) = .feed m :: e :: es := by
  cases e with
  | feed n => exact absurd rfl (he n)
  | _ => rfl

theorem consFeed_consFeed (m n : Nat) (es : List Element) :
    consFeed m (consFeed n es) = consFeed (m + n) es := by
  cases es with
  | nil => rfl
  | cons e es =>
    by_cases he : ∃ k, e = .feed k
    · obtain ⟨k, rfl⟩ := he
      simp only [consFeed, Nat.add_assoc]
    · have he := not_exists.1 he
      rw [consFeed_of_ne he, consFeed_of_ne he]
      rfl

theorem mergeFeeds_feed_cons (m : Nat) (es : List Element) :
    mergeFeeds (.feed m :: es) = consFeed m (mergeFeeds es) := rfl

theorem mergeFeeds_cons_of_ne {e : Element} (he : ∀ n, e ≠ .feed n) (es : List Element) :
    mergeFeeds (e :: es) = e :: mergeFeeds es := by
  cases e with
  | feed n => exact absurd rfl (he n)
  | _ => rfl

theorem mergeFeeds_consFeed_append (m : Nat) (xs ys : List Element) :
    mergeFeeds (consFeed m xs ++ ys) = consFeed m (mergeFeeds (xs ++ ys)) := by
  cases xs with
  | nil => rfl
  | cons e xs =>
    by_cases he : ∃ n, e = .feed n
    · obtain ⟨n, rfl⟩ := he
      have hjoined : consFeed m (.feed n :: xs) ++ ys = .feed (m + n) :: (xs ++ ys) := rfl
      rw [hjoined, List.cons_append, mergeFeeds_feed_cons, mergeFeeds_feed_cons, consFeed_consFeed]
    · rw [consFeed_of_ne (not_exists.1 he)]
      rfl

theorem mergeFeeds_mergeFeeds_append (xs ys : List Element) :
    mergeFeeds (mergeFeeds xs ++ ys) = mergeFeeds (xs ++ ys) := by
  induction xs with
  | nil => rfl
  | cons e xs ih =>
    by_cases he : ∃ m, e = .feed m
    · obtain ⟨m, rfl⟩ := he
      rw [mergeFeeds_feed_cons, mergeFeeds_consFeed_append, ih, List.cons_append,
        mergeFeeds_feed_cons]
    · have he := not_exists.1 he
      rw [mergeFeeds_cons_of_ne he, List.cons_append, List.cons_append, mergeFeeds_cons_of_ne he,
        mergeFeeds_cons_of_ne he, ih]

theorem mergeFeeds_mergeFeeds (es : List Element) : mergeFeeds (mergeFeeds es) = mergeFeeds es := by
  have h := mergeFeeds_mergeFeeds_append es []
  rw [List.append_nil, List.append_nil] at h
  exact h

theorem mergeFeeds_append_mergeFeeds (xs ys : List Element) :
    mergeFeeds (xs ++ mergeFeeds ys) = mergeFeeds (xs ++ ys) := by
  induction xs with
  | nil => exact mergeFeeds_mergeFeeds ys
  | cons e xs ih =>
    by_cases he : ∃ m, e = .feed m
    · obtain ⟨m, rfl⟩ := he
      rw [List.cons_append, List.cons_append, mergeFeeds_feed_cons, mergeFeeds_feed_cons, ih]
    · have he := not_exists.1 he
      rw [List.cons_append, List.cons_append, mergeFeeds_cons_of_ne he, mergeFeeds_cons_of_ne he,
        ih]

/-- `mergeFeeds` of joined lists depends on the merged parts alone. -/
theorem mergeFeeds_append_congr {xs xs' ys ys' : List Element}
    (hx : mergeFeeds xs = mergeFeeds xs') (hy : mergeFeeds ys = mergeFeeds ys') :
    mergeFeeds (xs ++ ys) = mergeFeeds (xs' ++ ys') := by
  calc mergeFeeds (xs ++ ys)
      = mergeFeeds (mergeFeeds xs ++ mergeFeeds ys) := by
        rw [mergeFeeds_append_mergeFeeds, mergeFeeds_mergeFeeds_append]
    _ = mergeFeeds (mergeFeeds xs' ++ mergeFeeds ys') := by rw [hx, hy]
    _ = mergeFeeds (xs' ++ ys') := by
        rw [mergeFeeds_append_mergeFeeds, mergeFeeds_mergeFeeds_append]

theorem mergeFeeds_replicate_feed (n : Nat) :
    mergeFeeds (List.replicate n (.feed 1)) = if n = 0 then [] else [.feed n] := by
  induction n with
  | zero => rfl
  | succ n ih =>
    rw [List.replicate_succ, mergeFeeds_feed_cons, ih, if_neg (Nat.succ_ne_zero n)]
    split
    · next hzero => rw [hzero]; rfl
    · show [Element.feed (1 + n)] = _
      rw [Nat.add_comm]

theorem mem_consFeed_iff {m : Nat} {e : Element} (he : ∀ n, e ≠ .feed n) {es : List Element} :
    e ∈ consFeed m es ↔ e ∈ es := by
  cases es with
  | nil => simp [consFeed, he m]
  | cons first es =>
    cases first with
    | feed n => simp [consFeed, he n, he (m + n)]
    | _ => simp [consFeed, he m]

theorem mem_mergeFeeds_iff {e : Element} (he : ∀ n, e ≠ .feed n) {es : List Element} :
    e ∈ mergeFeeds es ↔ e ∈ es := by
  induction es with
  | nil => exact Iff.rfl
  | cons first es ih =>
    by_cases hfeed : ∃ m, first = .feed m
    · obtain ⟨m, rfl⟩ := hfeed
      rw [mergeFeeds_feed_cons, mem_consFeed_iff he, ih, List.mem_cons, or_iff_right (he m)]
    · rw [mergeFeeds_cons_of_ne (not_exists.1 hfeed), List.mem_cons, List.mem_cons, ih]

/-! ### Lines -/

/-- An alignment tag at the start of a line takes the place of the alignment before it. -/
theorem parseLine_alignTag_append {a : Align} {line : Text} {r : Align × List Element}
    (h : parseLine a line = .ok r) (before : Align) :
    parseLine before (alignTag a ++ line) = .ok r := by
  obtain ⟨reading, hreading, h⟩ := bind_eq_ok_iff.1 h
  rw [parseLine, tokens_alignTag, readItems, hreading, ok_bind]
  split at h
  · exact h
  · cases h

theorem parseLines_append {a : Align} {xs ys : List Text} {es fs : List Element}
    (hx : parseLines a xs = .ok es) (hy : ∀ a, parseLines a ys = .ok fs) :
    parseLines a (xs ++ ys) = .ok (es ++ fs) := by
  induction xs generalizing a es with
  | nil =>
    cases hx
    exact hy a
  | cons line xs ih =>
    obtain ⟨⟨next, first⟩, hfirst, hx⟩ := bind_eq_ok_iff.1 hx
    obtain ⟨rest, hrest, hx⟩ := bind_eq_ok_iff.1 hx
    cases hx
    rw [List.cons_append, parseLines, hfirst, ok_bind]
    simp only [ih hrest, ok_bind, List.append_assoc]
    rfl

/-- `parseLines` on joined lines goes on with the alignment that the first ones leave. -/
theorem exists_parseLines_of_append {a : Align} {xs ys : List Text} {es : List Element}
    (h : parseLines a (xs ++ ys) = .ok es) : ∃ first next second, parseLines a xs = .ok first ∧
      parseLines next ys = .ok second ∧ es = first ++ second := by
  induction xs generalizing a es with
  | nil => exact ⟨[], a, es, rfl, h, rfl⟩
  | cons line xs ih =>
    obtain ⟨⟨next, first⟩, hfirst, h⟩ := bind_eq_ok_iff.1 h
    obtain ⟨rest, hrest, h⟩ := bind_eq_ok_iff.1 h
    cases h
    obtain ⟨es, last, second, hes, hsecond, rfl⟩ := ih hrest
    refine ⟨first ++ es, last, second, ?_, hsecond, (List.append_assoc _ _ _).symm⟩
    rw [parseLines, hfirst, ok_bind]
    simp only [hes, ok_bind]
    rfl

/-! ### Pieces -/

/-- Whether `lines` read as `es`, whatever alignment holds before them, up to feeds in a row. -/
structure StandFor (lines : List Text) (es : List Element) : Prop where
  one_line : ∀ line ∈ lines, '\n' ∉ line
  reads : ∃ read, (∀ a, parseLines a (lines.map Text.chomp) = .ok read) ∧
    mergeFeeds read = mergeFeeds es

theorem standFor_nil : StandFor [] [] := ⟨by simp, [], fun _ => rfl, rfl⟩

theorem StandFor.append {xs ys : List Text} {es fs : List Element} (hx : StandFor xs es)
    (hy : StandFor ys fs) : StandFor (xs ++ ys) (es ++ fs) := by
  obtain ⟨es', hes, hmerge⟩ := hx.reads
  obtain ⟨fs', hfs, hmerge'⟩ := hy.reads
  refine ⟨List.forall_mem_append.2 ⟨hx.one_line, hy.one_line⟩, es' ++ fs', fun a => ?_,
    mergeFeeds_append_congr hmerge hmerge'⟩
  rw [List.map_append]
  exact parseLines_append (hes a) hfs

theorem standFor_line {line : Text} {e : Element} {align : Align} (hone : '\n' ∉ line)
    (hchomp : Text.chomp line = line) (h : ∀ a, parseLine a line = .ok (align, [e])) :
    StandFor [line] [e] := by
  refine ⟨by simpa using hone, [e], fun a => ?_, rfl⟩
  rw [List.map_singleton, hchomp, parseLines, h, ok_bind]
  rfl

/-- Lines that `StandFor` elements parse as these with their feeds merged. -/
theorem StandFor.parse_join {lines : List Text} {es : List Element} (h : StandFor lines es)
    (hne : lines ≠ []) : parse (Text.join '\n' lines) = .ok (mergeFeeds es) := by
  obtain ⟨read, hread, hmerge⟩ := h.reads
  rw [parse, splitLines_join hne h.one_line, hread, Except.map, hmerge]

/-- Among other lines that can be read, `lines` still read as what they stand for, but for feeds. -/
theorem StandFor.mem_of_parse {before lines after : List Text} {es all : List Element} {e : Element}
    (h : StandFor lines es) (hparse : parse (Text.join '\n' (before ++ (lines ++ after))) = .ok all)
    (hmem : e ∈ es) (he : ∀ n, e ≠ .feed n) : e ∈ all := by
  obtain ⟨read, hread, hmerge⟩ := h.reads
  have hmem : e ∈ read := by rwa [← mem_mergeFeeds_iff he, hmerge, mem_mergeFeeds_iff he]
  have hne : before ++ (lines ++ after) ≠ [] := by
    intro hnil
    have hlines := (List.append_eq_nil_iff.1 (List.append_eq_nil_iff.1 hnil).2).1
    rw [hlines] at hread
    cases hread .left
    cases hmem
  rw [parse, splitLines_join_eq_flatMap hne, List.flatMap_append, List.flatMap_append,
    flatMap_splitLines h.one_line] at hparse
  obtain ⟨parsed, hparsed, rfl⟩ := map_eq_ok_iff.1 hparse
  obtain ⟨first, next, rest, -, hrest, rfl⟩ := exists_parseLines_of_append hparsed
  obtain ⟨second, _, third, hsecond, -, rfl⟩ := exists_parseLines_of_append hrest
  rw [hread next] at hsecond
  cases hsecond
  rw [mem_mergeFeeds_iff he]
  exact List.mem_append_right _ (List.mem_append_left _ hmem)

end ReceiptPrinter.Markup

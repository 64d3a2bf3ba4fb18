import ReceiptPrinter.Proofs.Receipt.Framing

/-!
# Receipts put together

The runs that wait for the end of their line are all that the encoder carries from one element to
the next. Where none wait (`EndsLine`), the receipt of elements put together has the `body` of both
parts in order between its preamble and its terminator; it fails as its first failing element does
(`FirstFailure`), and none of its segments is empty.
-/

namespace ReceiptPrinter

open Number

theorem Command.bytes_ne_nil (c : Command) : c.bytes ≠ [] := by cases c <;> simp [bytes]

theorem Command.stream_ne_nil {cs : List Command} (h : cs ≠ []) : stream cs ≠ [] := by
  obtain ⟨c, cs, rfl⟩ := List.exists_cons_of_ne_nil h
  simp [stream, c.bytes_ne_nil]

namespace Receipt

variable (config : Config)

/-! ### Segments -/

/-- Whether no run waits for the end of its line after elements. -/
def EndsLine (es : List Element) : Prop :=
  ∀ run, es.getLast? = some (.text run) → run.endsLine = true

theorem EndsLine.tail {e : Element} {es : List Element} (h : EndsLine (e :: es)) :
    EndsLine es := by
  intro run hrun
  have hne : es ≠ [] := List.ne_nil_of_mem (List.mem_of_getLast? hrun)
  exact h run (by rw [List.getLast?_cons_of_ne_nil hne, hrun])

/-- `bodySegments` of joined lists is that of both, where no run waits in between. -/
theorem bodySegments_append (pending : List TextRun) {a : List Element} (b : List Element)
    (hends : EndsLine a) (hpending : a = [] → pending = []) :
    bodySegments config pending (a ++ b) = (do
      let first ← bodySegments config pending a
      let second ← bodySegments config [] b
      return first ++ second) := by
  fun_induction bodySegments config pending a with
  | case1 pending =>
    have hnil : pendingSegments config [] = [] := rfl
    rw [hpending rfl, List.nil_append, hnil, ok_bind]
    simp only [List.nil_append, bind_pure]
  | case2 pending run rest hrun ih =>
    rw [List.cons_append, bodySegments, if_pos hrun, ih hends.tail fun _ => rfl]
    simp only [bind_assoc, pure_bind, List.cons_append]
  | case3 pending run rest hrun ih =>
    have hne : rest ≠ [] := by
      rintro rfl
      exact hrun (hends run rfl)
    rw [List.cons_append, bodySegments, if_neg hrun]
    exact ih hends.tail fun hnil => absurd hnil hne
  | case4 pending e rest htext ih =>
    rw [List.cons_append, bodySegments.eq_3 _ _ _ _ htext, ih hends.tail fun _ => rfl]
    simp only [bind_assoc, pure_bind, List.append_assoc]

/-- An element that is no text ends the line before it, whatever waits there. -/
theorem bodySegments_append_block (pending : List TextRun) (before : List Element) {e : Element}
    (htext : ∀ run, e ≠ .text run) (after : List Element) :
    bodySegments config pending (before ++ e :: after) = (do
      let first ← bodySegments config pending before
      let block ← blockSegments config e
      let second ← bodySegments config [] after
      return first ++ (block ++ second)) := by
  fun_induction bodySegments config pending before with
  | case1 pending =>
    rw [List.nil_append, bodySegments.eq_3 _ _ _ _ htext, ok_bind]
    simp only [List.append_assoc]
  | case2 pending run rest hrun ih =>
    rw [List.cons_append, bodySegments, if_pos hrun, ih]
    simp only [bind_assoc, pure_bind, List.cons_append]
  | case3 pending run rest hrun ih =>
    rw [List.cons_append, bodySegments, if_neg hrun]
    exact ih
  | case4 pending x rest hx ih =>
    rw [List.cons_append, bodySegments.eq_3 _ _ _ _ hx, ih]
    simp only [bind_assoc, pure_bind, List.append_assoc]

/-! ### Failures -/

/-- Whether `e` is the failure of the first element on which `f` fails. -/
def FirstFailure {α : Type} (f : Element → Except EncodingError α) (es : List Element)
    (e : EncodingError) : Prop :=
  ∃ before x after, es = before ++ x :: after ∧ (∀ y ∈ before, ∃ a, f y = .ok a) ∧ f x = .error e

variable {α β : Type} {f : Element → Except EncodingError α} {g : Element → Except EncodingError β}
  {config} {e : EncodingError}

theorem firstFailure_nil : ¬FirstFailure f [] e := by
  rintro ⟨before, x, after, hnil, -⟩
  exact absurd hnil.symm (by simp)

theorem firstFailure_cons {x : Element} {es : List Element} :
    FirstFailure f (x :: es) e ↔ f x = .error e ∨ (∃ a, f x = .ok a) ∧ FirstFailure f es e := by
  constructor
  · rintro ⟨before, y, after, heq, hbefore, hy⟩
    cases before with
    | nil =>
      cases heq
      exact .inl hy
    | cons z before =>
      cases heq
      rw [List.forall_mem_cons] at hbefore
      exact .inr ⟨hbefore.1, before, y, after, rfl, hbefore.2, hy⟩
  · rintro (hx | ⟨hx, before, y, after, rfl, hbefore, hy⟩)
    · exact ⟨[], x, es, rfl, by simp, hx⟩
    · exact ⟨x :: before, y, after, rfl, List.forall_mem_cons.2 ⟨hx, hbefore⟩, hy⟩

theorem firstFailure_congr (h : ∀ x e, f x = .error e ↔ g x = .error e) {es : List Element} :
    FirstFailure f es e ↔ FirstFailure g es e := by
  simp only [FirstFailure, exists_eq_ok_iff, ne_eq, h]

/-- `bodySegments` fails as the first element that fails on its own. -/
theorem bodySegments_eq_error_iff {pending : List TextRun} {es : List Element} :
    bodySegments config pending es = .error e ↔ FirstFailure (blockSegments config) es e := by
  fun_induction bodySegments config pending es with
  | case1 pending => simp [firstFailure_nil]
  | case2 pending run rest hrun ih =>
    rw [bind_eq_error_iff, ih, firstFailure_cons]
    simp [blockSegments, pure, Except.pure]
  | case3 pending run rest hrun ih =>
    rw [ih, firstFailure_cons]
    simp [blockSegments]
  | case4 pending x rest htext ih =>
    simp only [bind_eq_error_iff, ih, firstFailure_cons]
    simp [pure, Except.pure]

/-! ### Bytes -/

def body (config : Config) (es : List Element) : Except EncodingError (List (List UInt8)) :=
  (bodySegments config [] es).map fun segments =>
    (segments.filter (!·.isEmpty)).map Command.stream

/-- The segments of a receipt between its first and its last. -/
def between (segments : List (List UInt8)) : List (List UInt8) := segments.tail.dropLast

theorem between_framed (first last : List UInt8) (segments : List (List UInt8)) :
    between (first :: segments ++ [last]) = segments := List.dropLast_concat

variable (config)

/-- `encodeWithFeed` is `body` between preamble and terminator. -/
theorem encodeWithFeed_eq (feedLines : Single) (es : List Element) :
    encodeWithFeed config feedLines es = (body config es).map fun segments =>
      Command.stream (preamble config) :: segments ++
        [Command.stream (terminator config feedLines)] := by
  rw [encodeWithFeed, commandSegments, body]
  cases bodySegments config [] es with
  | error e => rfl
  | ok segments =>
    have hfilter : (preamble config :: segments ++ [terminator config feedLines]).filter
        (!·.isEmpty) = preamble config :: segments.filter (!·.isEmpty) ++
          [terminator config feedLines] := by
      simp [preamble, terminator]
    show Except.ok (List.map Command.stream (List.filter _ _)) = _
    rw [hfilter, List.map_append, List.map_cons]
    rfl

theorem body_append {a : List Element} (b : List Element) (h : EndsLine a) :
    body config (a ++ b) = (do return (← body config a) ++ (← body config b)) := by
  rw [body, bodySegments_append config [] b h fun _ => rfl, body, body]
  cases bodySegments config [] a with
  | error e => rfl
  | ok first =>
    cases bodySegments config [] b with
    | error e => rfl
    | ok second =>
      show Except.ok (List.map Command.stream (List.filter _ (first ++ second))) = _
      rw [List.filter_append, List.map_append]
      rfl

/-- The segments of an element that is no text stand between those of its neighbours. -/
theorem body_append_block (before : List Element) {e : Element} (htext : ∀ run, e ≠ .text run)
    (after : List Element) :
    body config (before ++ e :: after) = (do
      let first ← body config before
      let block ← (blockSegments config e).map fun segments =>
        (segments.filter (!·.isEmpty)).map Command.stream
      let second ← body config after
      return first ++ block ++ second) := by
  rw [body, bodySegments_append_block config [] before htext, body, body]
  cases bodySegments config [] before with
  | error e => rfl
  | ok first =>
    cases blockSegments config e with
    | error e => rfl
    | ok block =>
      cases bodySegments config [] after with
      | error e => rfl
      | ok second =>
        show Except.ok (List.map Command.stream (List.filter _ (first ++ (block ++ second)))) = _
        rw [List.filter_append, List.filter_append, List.map_append, List.map_append,
          ← List.append_assoc]
        rfl

theorem ne_nil_of_mem_body {es : List Element} {segments : List (List UInt8)}
    (h : body config es = .ok segments) : ∀ segment ∈ segments, segment ≠ [] := by
  obtain ⟨commands, -, rfl⟩ := map_eq_ok_iff.1 h
  intro segment hsegment
  obtain ⟨cs, hcs, rfl⟩ := List.mem_map.1 hsegment
  exact Command.stream_ne_nil (by simpa using (List.mem_filter.1 hcs).2)

theorem encodeWithFeed_eq_error_iff {feedLines : Single} {es : List Element} {e : EncodingError} :
    encodeWithFeed config feedLines es = .error e ↔ FirstFailure (blockSegments config) es e := by
  rw [encodeWithFeed_eq, map_eq_error_iff, body, map_eq_error_iff, bodySegments_eq_error_iff]

/-- Where `a` ends its line, `encodeWithFeed` succeeds on `a ++ b` if it does on both, and the body
is the bodies of both in order. Preamble and terminator are those of any elements, no segment is
empty, and a receipt that fails does so as the first element that fails on its own. -/
theorem encodeWithFeed_append (feedLines : Single) {a : List Element} (b : List Element)
    (h : EndsLine a) :
    ((∃ s, encodeWithFeed config feedLines (a ++ b) = .ok s) ↔
      (∃ s, encodeWithFeed config feedLines a = .ok s) ∧
      ∃ s, encodeWithFeed config feedLines b = .ok s) ∧
    (∀ s first second, encodeWithFeed config feedLines (a ++ b) = .ok s →
      encodeWithFeed config feedLines a = .ok first →
      encodeWithFeed config feedLines b = .ok second →
      between s = between first ++ between second) ∧
    (∀ es s, encodeWithFeed config feedLines es = .ok s →
      s = Command.stream (preamble config) :: between s ++
        [Command.stream (terminator config feedLines)] ∧
      ∀ segment ∈ s, segment ≠ []) ∧
    ∀ es e, encodeWithFeed config feedLines es = .error e ↔
      FirstFailure (fun x => encodeWithFeed config feedLines [x]) es e := by
  refine ⟨?_, ?_, ?_, ?_⟩
  · simp only [encodeWithFeed_eq, exists_map_eq_ok_iff, body_append config b h, bind_eq_ok_iff]
    constructor
    · rintro ⟨_, first, hfirst, second, hsecond, -⟩
      exact ⟨⟨first, hfirst⟩, second, hsecond⟩
    · rintro ⟨⟨first, hfirst⟩, second, hsecond⟩
      exact ⟨_, first, hfirst, second, hsecond, rfl⟩
  · intro s first second hs hfirst hsecond
    rw [encodeWithFeed_eq] at hs hfirst hsecond
    obtain ⟨x, hx, rfl⟩ := map_eq_ok_iff.1 hfirst
    obtain ⟨y, hy, rfl⟩ := map_eq_ok_iff.1 hsecond
    rw [body_append config b h, hx, hy] at hs
    cases hs
    rw [between_framed, between_framed, between_framed]
  · intro es s hs
    rw [encodeWithFeed_eq] at hs
    obtain ⟨segments, hbody, rfl⟩ := map_eq_ok_iff.1 hs
    rw [between_framed]
    refine ⟨rfl, fun segment hsegment => ?_⟩
    simp only [List.mem_append, List.mem_cons, List.not_mem_nil, or_false] at hsegment
    obtain (rfl | hsegment) | rfl := hsegment
    · exact Command.stream_ne_nil (by simp [preamble])
    · exact ne_nil_of_mem_body config hbody segment hsegment
    · exact Command.stream_ne_nil (by simp [terminator])
  · intro es e
    rw [encodeWithFeed_eq_error_iff]
    refine firstFailure_congr fun x e => ?_
    rw [encodeWithFeed_eq_error_iff, firstFailure_cons]
    simp [firstFailure_nil]

theorem encodeWithFeed_append_of_line :
    ∃ config a b s first second, Config.build { host := some "a".toList } = .ok config ∧
      a = [.text ⟨"a".toList, .left, { bold := true }, false⟩, .text (.line "b".toList .right)] ∧
      b = [.feed 2] ∧ EndsLine a ∧
      encodeWithFeed config (Single.ofNat 1) (a ++ b) = .ok s ∧
      encodeWithFeed config (Single.ofNat 1) a = .ok first ∧
      encodeWithFeed config (Single.ofNat 1) b = .ok second ∧
      between s = between first ++ between second := by
  let config : Config := ⟨{}, .full, true, true, Single.zero, .gbk, .network "a".toList 9100 30⟩
  let a : List Element :=
    [.text ⟨"a".toList, .left, { bold := true }, false⟩, .text (.line "b".toList .right)]
  have hends : EndsLine a := by
    rintro run hrun
    cases hrun
    rfl
  have hwhole : encodeWithFeed config (Single.ofNat 1) (a ++ [.feed 2]) = .ok _ := rfl
  have hfirst : encodeWithFeed config (Single.ofNat 1) a = .ok _ := rfl
  have hsecond : encodeWithFeed config (Single.ofNat 1) [.feed 2] = .ok _ := rfl
  obtain ⟨-, hbetween, -, -⟩ :=
    encodeWithFeed_append config (Single.ofNat 1) [.feed 2] hends
  exact ⟨config, a, [.feed 2], _, _, _, rfl, rfl, rfl, hends, hwhole, hfirst, hsecond,
    hbetween _ _ _ hwhole hfirst hsecond⟩

end Receipt

end ReceiptPrinter

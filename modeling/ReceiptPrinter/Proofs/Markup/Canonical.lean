import Mathlib.Data.List.Flatten
import ReceiptPrinter.Markup.Parser
import ReceiptPrinter.Proofs.Except
import ReceiptPrinter.Proofs.Markup.Token
import ReceiptPrinter.Proofs.Text.Decimal

/-!
# What markup can say

Elements are `Canonical` if each can stand in markup, lines of text are complete and feeds are not
neighbours. `parse` gives canonical elements, and their texts are a part of the lines that were
read, in order.
-/

namespace ReceiptPrinter

open Number Markup

namespace Element

/-- The text that an element takes over from markup. -/
def content : Element → Text
  | .text run => run.content
  | .barcode b => b.content
  | .qrCode q => q.content
  | .picture _ | .feed _ => []

/-- What reading markup makes sure of for an element. -/
def Sound : Element → Prop
  | .text run => run.content ≠ [] ∧ isPlain run.content = true
  | .picture _ => True
  | .barcode b =>
    Text.trim b.content = b.content ∧ ¬HasClosing BlockKind.barcode.closing b.content ∧
      b.height.isFinitePositive = true ∧ ∀ w ∈ b.width, w.isFinitePositive = true
  | .qrCode q => 0 < q.moduleSize ∧ ¬HasClosing BlockKind.qrCode.closing q.content
  | .feed n => 0 < n

/-- Every run that does not end its line is followed by another run. -/
def LinesEnd : List Element → Prop
  | [] => True
  | .text run :: rest =>
    (run.endsLine = false → ∃ next rest', rest = .text next :: rest') ∧ LinesEnd rest
  | _ :: rest => LinesEnd rest

/-- No two feeds are neighbours. -/
def FeedsApart : List Element → Prop
  | [] => True
  | .feed _ :: rest => (∀ n rest', rest ≠ .feed n :: rest') ∧ FeedsApart rest
  | _ :: rest => FeedsApart rest

/-- Elements as reading markup gives them. -/
structure Canonical (es : List Element) : Prop where
  sound : ∀ e ∈ es, e.Sound
  one_line : ∀ e ∈ es, '\n' ∉ e.content
  lines_end : LinesEnd es
  feeds_apart : FeedsApart es

theorem LinesEnd.append {xs ys : List Element} (hx : LinesEnd xs) (hy : LinesEnd ys) :
    LinesEnd (xs ++ ys) := by
  induction xs with
  | nil => exact hy
  | cons e xs ih =>
    cases e with
    | text run =>
      refine ⟨fun hrun => ?_, ih hx.2⟩
      obtain ⟨next, rest, hrest⟩ := hx.1 hrun
      exact ⟨next, rest ++ ys, by rw [hrest]; rfl⟩
    | picture p => exact ih hx
    | barcode b => exact ih hx
    | qrCode q => exact ih hx
    | feed n => exact ih hx

end Element

namespace Markup

/-! ### Blocks -/

theorem of_orFault {α : Type} {fault : Fault} {x : Option α} {a : α}
    (h : orFault fault x = .ok a) : x = some a := by
  cases x with
  | none => cases h
  | some b => cases h; rfl

theorem of_within {α : Type} {fragment : Text} {x : Except Fault α} {a : α}
    (h : within fragment x = .ok a) : x = .ok a := by
  cases x with
  | error fault => cases h
  | ok b => cases h; rfl

theorem isFinitePositive_of_positiveLength? {value : Text} {x : Single}
    (h : positiveLength? value = some x) : x.isFinitePositive = true :=
  (Option.filter_eq_some_iff.1 h).2

/-- `barcodeAttribute` leaves the content of a barcode and gives it finite positive lengths only. -/
theorem barcodeAttribute_keeps {content : Text} {b b' : Barcode} {a : Attribute}
    (hb : b.content = content ∧ b.height.isFinitePositive = true ∧
      ∀ w ∈ b.width, w.isFinitePositive = true) (h : barcodeAttribute b a = .ok b') :
    b'.content = content ∧ b'.height.isFinitePositive = true ∧
      ∀ w ∈ b'.width, w.isFinitePositive = true := by
  obtain ⟨hcontent, hheight, hwidth⟩ := hb
  unfold barcodeAttribute at h
  split at h
  · obtain ⟨_, -, rfl⟩ := map_eq_ok_iff.1 h
    exact ⟨hcontent, hheight, hwidth⟩
  · split at h
    · obtain ⟨x, hx, rfl⟩ := map_eq_ok_iff.1 h
      exact ⟨hcontent, isFinitePositive_of_positiveLength? (of_orFault hx), hwidth⟩
    · split at h
      · obtain ⟨x, hx, rfl⟩ := map_eq_ok_iff.1 h
        refine ⟨hcontent, hheight, fun w hw => ?_⟩
        cases Option.mem_some.1 hw
        exact isFinitePositive_of_positiveLength? (of_orFault hx)
      · split at h
        · obtain ⟨_, -, rfl⟩ := map_eq_ok_iff.1 h
          exact ⟨hcontent, hheight, hwidth⟩
        · cases h

theorem qrCodeAttribute_pos {size size' : UInt8} {a : Attribute}
    (h : qrCodeAttribute size a = .ok size') : 0 < size' := by
  unfold qrCodeAttribute at h
  split at h
  · obtain ⟨n, hn, rfl⟩ := map_eq_ok_iff.1 h
    obtain ⟨hread, hpos⟩ := Option.filter_eq_some_iff.1 (of_orFault hn)
    have hle : n ≤ 255 := Text.le_of_nat? hread
    have hpos : 0 < n := of_decide_eq_true hpos
    rw [UInt8.lt_iff_toNat_lt, UInt8.toNat_ofNat', UInt8.toNat_zero]
    omega
  · cases h

theorem isFinitePositive_height : (Single.ofNat 10).isFinitePositive = true := by
  decide +kernel

/-- What `blockElement` gives: a sound element whose content comes from the content of the block. -/
theorem blockElement_sound {align : Align} {kind : BlockKind} {attributes : List Attribute}
    {content : Text} {e : Element} (h : blockElement align kind attributes content = .ok e)
    (hclosing : ¬HasClosing kind.closing content) :
    e.Sound ∧ e.content.Sublist content ∧ (∀ run, e ≠ .text run) ∧ ∀ n, e ≠ .feed n := by
  cases kind with
  | picture =>
    simp only [blockElement] at h
    obtain ⟨-, -, h⟩ := bind_eq_ok_iff.1 h
    split at h
    · cases h
      exact ⟨trivial, List.nil_sublist _, by simp, by simp⟩
    · cases h
  | barcode =>
    simp only [blockElement] at h
    obtain ⟨b, hb, rfl⟩ := map_eq_ok_iff.1 h
    obtain ⟨hcontent, hheight, hwidth⟩ :=
      foldlM_induction (P := fun b : Barcode => b.content = Text.trim content ∧
        b.height.isFinitePositive = true ∧ ∀ w ∈ b.width, w.isFinitePositive = true)
        (fun _ _ _ => barcodeAttribute_keeps) ⟨rfl, isFinitePositive_height, by simp⟩ hb
    refine ⟨⟨?_, ?_, hheight, hwidth⟩, ?_, by simp, by simp⟩
    · rw [hcontent, Text.trim_trim]
    · rw [hcontent]
      exact fun hc => hclosing (hc.mono (Text.trim_infix content))
    · rw [Element.content, hcontent]
      exact (Text.trim_infix content).sublist
  | qrCode =>
    simp only [blockElement] at h
    obtain ⟨size, hsize, rfl⟩ := map_eq_ok_iff.1 h
    have hpos : 0 < size :=
      foldlM_induction (P := fun size : UInt8 => 0 < size)
        (fun _ _ _ _ => qrCodeAttribute_pos) (by decide) hsize
    exact ⟨⟨hpos, hclosing⟩, List.Sublist.refl _, by simp, by simp⟩

/-! ### Items of a line -/

def LineItem.content : LineItem → Text
  | .text content .. => content
  | .block e => e.content

def LineItem.Sound : LineItem → Prop
  | .text content .. => content ≠ [] ∧ isPlain content = true
  | .block e => e.Sound ∧ (∀ run, e ≠ .text run) ∧ ∀ n, e ≠ .feed n

theorem readBlock_sound {align : Align} {styles : List StyleTag} {kind : BlockKind}
    {attributes raw : Text} {content : Option Text} {e : Element}
    (h : readBlock align styles kind attributes raw content = .ok e)
    (htok : (Token.block kind attributes raw content).Sound) :
    (LineItem.block e).Sound ∧
      e.content.Sublist (Token.block kind attributes raw content).content := by
  unfold readBlock at h
  obtain ⟨as, -, h⟩ := bind_eq_ok_iff.1 h
  cases styles with
  | cons style styles => cases h
  | nil =>
    cases content with
    | none => cases h
    | some content =>
      obtain ⟨hsound, hsub, htext, hfeed⟩ := blockElement_sound (of_within h) htok
      exact ⟨⟨hsound, htext, hfeed⟩, hsub⟩

theorem readItems_sound {align : Align} {styles : List StyleTag} {toks : List Token}
    {reading : LineReading} (h : readItems align styles toks = .ok reading)
    (htoks : ∀ tok ∈ toks, tok.Sound) :
    (∀ item ∈ reading.items, item.Sound) ∧
      (reading.items.flatMap LineItem.content).Sublist (toks.flatMap Token.content) := by
  induction toks generalizing align styles reading with
  | nil =>
    cases h
    exact ⟨by simp, List.Sublist.refl _⟩
  | cons tok toks ih =>
    have htok := htoks tok (by simp)
    have hrest : ∀ t ∈ toks, t.Sound := fun t ht => htoks t (List.mem_cons_of_mem _ ht)
    cases tok with
    | text content =>
      obtain ⟨r, hr, h⟩ := bind_eq_ok_iff.1 h
      cases h
      obtain ⟨hsound, hsub⟩ := ih hr hrest
      exact ⟨List.forall_mem_cons.2 ⟨htok, hsound⟩, (List.Sublist.refl _).append hsub⟩
    | align a => exact ih h hrest
    | closing name raw =>
      unfold readItems at h
      cases styles with
      | nil => cases h
      | cons style styles =>
        simp only at h
        split at h
        · exact ih h hrest
        · cases h
    | opening name attributes raw =>
      obtain ⟨_, -, h⟩ := bind_eq_ok_iff.1 h
      obtain ⟨_, -, h⟩ := bind_eq_ok_iff.1 h
      exact ih h hrest
    | block kind attributes raw content =>
      obtain ⟨e, he, h⟩ := bind_eq_ok_iff.1 h
      obtain ⟨r, hr, h⟩ := bind_eq_ok_iff.1 h
      cases h
      obtain ⟨hblock, hcontent⟩ := readBlock_sound he htok
      obtain ⟨hsound, hsub⟩ := ih hr hrest
      exact ⟨List.forall_mem_cons.2 ⟨hblock, hsound⟩, hcontent.append hsub⟩
    | unterminated rest => cases h

/-! ### Lines -/

theorem LineItem.elements_sound {items : List LineItem} (h : ∀ item ∈ items, item.Sound) :
    (∀ e ∈ elements items, e.Sound) ∧ Element.LinesEnd (elements items) ∧
      (elements items).flatMap Element.content = items.flatMap LineItem.content := by
  induction items with
  | nil => exact ⟨by simp [elements], trivial, rfl⟩
  | cons item items ih =>
    have hitem := h item (by simp)
    obtain ⟨hsound, hends, hcontent⟩ := ih fun i hi => h i (List.mem_cons_of_mem _ hi)
    cases item with
    | text content align style =>
      refine ⟨List.forall_mem_cons.2 ⟨hitem, hsound⟩, ⟨fun hrun => ?_, hends⟩, ?_⟩
      · -- a run that does not end its line is followed by an item of text
        cases items with
        | nil => cases hrun
        | cons next items =>
          cases next with
          | block e => cases hrun
          | text => exact ⟨_, _, rfl⟩
      · show content ++ (elements items).flatMap Element.content = _
        rw [hcontent]
        rfl
    | block e =>
      refine ⟨List.forall_mem_cons.2 ⟨hitem.1, hsound⟩, ?_, ?_⟩
      · cases e with
        | text run => exact absurd rfl (hitem.2.1 run)
        | feed n => exact absurd rfl (hitem.2.2 n)
        | picture p => exact hends
        | barcode b => exact hends
        | qrCode q => exact hends
      · rw [elements, List.flatMap_cons, List.flatMap_cons, hcontent]
        rfl

theorem LineItem.elements_ne_nil {items : List LineItem} (h : items ≠ []) :
    elements items ≠ [] := by
  cases items with
  | nil => exact absurd rfl h
  | cons item items => cases item <;> simp [elements]

theorem finishLine_sound {items : List LineItem} (h : ∀ item ∈ items, item.Sound) :
    finishLine items ≠ [] ∧ (∀ e ∈ finishLine items, e.Sound) ∧
      Element.LinesEnd (finishLine items) ∧
      ((finishLine items).flatMap Element.content).Sublist (items.flatMap LineItem.content) := by
  obtain ⟨kept, hsub, heq⟩ : ∃ kept : List LineItem, kept.Sublist items ∧
      finishLine items = if kept.isEmpty then [.feed 1] else LineItem.elements kept := by
    by_cases hblock : items.any LineItem.isBlock = true
    · exact ⟨_, List.filter_sublist, by rw [finishLine, if_pos hblock]⟩
    · exact ⟨_, List.Sublist.refl _, by rw [finishLine, if_neg hblock]⟩
  rw [heq]
  by_cases hkept : kept = []
  · rw [hkept]
    refine ⟨by simp, fun e he => ?_, trivial, List.nil_sublist _⟩
    rw [List.mem_singleton.1 he]
    exact Nat.one_pos
  · obtain ⟨hsound, hends, hcontent⟩ := LineItem.elements_sound fun i hi => h i (hsub.subset hi)
    rw [if_neg (by simpa using hkept)]
    exact ⟨LineItem.elements_ne_nil hkept, hsound, hends, hcontent ▸ hsub.flatMap _⟩

theorem parseLine_sound {align next : Align} {line : Text} {es : List Element}
    (h : parseLine align line = .ok (next, es)) :
    es ≠ [] ∧ (∀ e ∈ es, e.Sound) ∧ Element.LinesEnd es ∧
      (es.flatMap Element.content).Sublist line := by
  obtain ⟨reading, hread, h⟩ := bind_eq_ok_iff.1 h
  split at h
  · cases h
    obtain ⟨hsound, hsub⟩ := readItems_sound hread fun _ => sound_of_mem_tokens
    obtain ⟨hne, hes, hends, hcontent⟩ := finishLine_sound hsound
    exact ⟨hne, hes, hends, (hcontent.trans hsub).trans (contents_tokens_sublist line)⟩
  · cases h

theorem parseLines_sound {align : Align} {lines : List Text} {es : List Element}
    (h : parseLines align lines = .ok es) :
    (lines ≠ [] → es ≠ []) ∧ (∀ e ∈ es, e.Sound) ∧ Element.LinesEnd es ∧
      (es.flatMap Element.content).Sublist lines.flatten := by
  induction lines generalizing align es with
  | nil =>
    cases h
    exact ⟨fun h => absurd rfl h, by simp, trivial, List.Sublist.refl _⟩
  | cons line lines ih =>
    obtain ⟨⟨next, first⟩, hfirst, h⟩ := bind_eq_ok_iff.1 h
    obtain ⟨rest, hrest, h⟩ := bind_eq_ok_iff.1 h
    cases h
    obtain ⟨hne, hsound, hends, hcontent⟩ := parseLine_sound hfirst
    obtain ⟨-, hsound', hends', hcontent'⟩ := ih hrest
    refine ⟨fun _ => by simp [hne], fun e he => ?_, hends.append hends', ?_⟩
    · exact (List.mem_append.1 he).elim (hsound e) (hsound' e)
    · rw [List.flatMap_append, List.flatten_cons]
      exact hcontent.append hcontent'

/-! ### Feeds -/

theorem mergeFeeds_eq_nil_iff {es : List Element} : mergeFeeds es = [] ↔ es = [] := by
  cases es with
  | nil => simp [mergeFeeds]
  | cons e es =>
    cases e <;> simp only [mergeFeeds, reduceCtorEq]
    split <;> simp

/-- `mergeFeeds` joins a feed to the one that comes first after it, if one does. -/
theorem mergeFeeds_feed (m : Nat) (es : List Element) :
    (∃ n rest, mergeFeeds es = .feed n :: rest ∧
      mergeFeeds (.feed m :: es) = .feed (m + n) :: rest) ∨
    ((∀ n rest, mergeFeeds es ≠ .feed n :: rest) ∧
      mergeFeeds (.feed m :: es) = .feed m :: mergeFeeds es) := by
  cases h : mergeFeeds es with
  | nil => exact .inr ⟨by simp, by rw [mergeFeeds, h]⟩
  | cons e rest =>
    cases e with
    | feed n => exact .inl ⟨n, rest, rfl, by rw [mergeFeeds, h]⟩
    | text run => exact .inr ⟨by simp, by rw [mergeFeeds, h]⟩
    | picture p => exact .inr ⟨by simp, by rw [mergeFeeds, h]⟩
    | barcode b => exact .inr ⟨by simp, by rw [mergeFeeds, h]⟩
    | qrCode q => exact .inr ⟨by simp, by rw [mergeFeeds, h]⟩

theorem mergeFeeds_sound {es : List Element} (h : ∀ e ∈ es, e.Sound) :
    ∀ e ∈ mergeFeeds es, e.Sound := by
  induction es with
  | nil => simp [mergeFeeds]
  | cons e es ih =>
    obtain ⟨he, hes⟩ := List.forall_mem_cons.1 h
    have hmerged := ih hes
    cases e with
    | feed m =>
      obtain ⟨n, rest, hrest, heq⟩ | ⟨-, heq⟩ := mergeFeeds_feed m es
      · rw [hrest] at hmerged
        rw [heq]
        exact List.forall_mem_cons.2 ⟨Nat.add_pos_left he n, (List.forall_mem_cons.1 hmerged).2⟩
      · rw [heq]
        exact List.forall_mem_cons.2 ⟨he, hmerged⟩
    | text run => exact List.forall_mem_cons.2 ⟨he, hmerged⟩
    | picture p => exact List.forall_mem_cons.2 ⟨he, hmerged⟩
    | barcode b => exact List.forall_mem_cons.2 ⟨he, hmerged⟩
    | qrCode q => exact List.forall_mem_cons.2 ⟨he, hmerged⟩

theorem mergeFeeds_content (es : List Element) :
    (mergeFeeds es).flatMap Element.content = es.flatMap Element.content := by
  induction es with
  | nil => rfl
  | cons e es ih =>
    cases e with
    | feed m =>
      obtain ⟨n, rest, hrest, heq⟩ | ⟨-, heq⟩ := mergeFeeds_feed m es
      · rw [hrest] at ih
        rw [heq]
        exact ih
      · rw [heq]
        exact ih
    | text run => exact congrArg (run.content ++ ·) ih
    | picture p => exact ih
    | barcode b => exact congrArg (b.content ++ ·) ih
    | qrCode q => exact congrArg (q.content ++ ·) ih

theorem linesEnd_mergeFeeds {es : List Element} (h : Element.LinesEnd es) :
    Element.LinesEnd (mergeFeeds es) := by
  induction es with
  | nil => exact h
  | cons e es ih =>
    cases e with
    | feed m =>
      have hes := ih h
      obtain ⟨n, rest, hrest, heq⟩ | ⟨-, heq⟩ := mergeFeeds_feed m es
      · rw [hrest] at hes
        rw [heq]
        exact hes
      · rw [heq]
        exact hes
    | text run =>
      refine ⟨fun hrun => ?_, ih h.2⟩
      obtain ⟨next, rest, rfl⟩ := h.1 hrun
      exact ⟨next, mergeFeeds rest, rfl⟩
    | picture p => exact ih h
    | barcode b => exact ih h
    | qrCode q => exact ih h

theorem feedsApart_mergeFeeds (es : List Element) : Element.FeedsApart (mergeFeeds es) := by
  induction es with
  | nil => trivial
  | cons e es ih =>
    cases e with
    | feed m =>
      obtain ⟨n, rest, hrest, heq⟩ | ⟨hnot, heq⟩ := mergeFeeds_feed m es
      · rw [hrest] at ih
        rw [heq]
        exact ih
      · rw [heq]
        exact ⟨hnot, ih⟩
    | text run => exact ih
    | picture p => exact ih
    | barcode b => exact ih
    | qrCode q => exact ih

/-- `parse` gives `Canonical` elements, and what they take over from the lines of the markup is a
part of them in order. -/
theorem parse_canonical {x : Text} {es : List Element} (h : parse x = .ok es) :
    es ≠ [] ∧ Element.Canonical es ∧
      (es.flatMap Element.content).Sublist (splitLines x).flatten := by
  obtain ⟨read, hread, rfl⟩ := map_eq_ok_iff.1 h
  obtain ⟨hne, hsound, hends, hcontent⟩ := parseLines_sound hread
  refine ⟨fun hnil => hne (splitLines_ne_nil x) (mergeFeeds_eq_nil_iff.1 hnil), ?_, ?_⟩
  · refine ⟨mergeFeeds_sound hsound, fun e he hfeed => ?_, linesEnd_mergeFeeds hends,
      feedsApart_mergeFeeds read⟩
    have hmem : '\n' ∈ (mergeFeeds read).flatMap Element.content :=
      List.mem_flatMap.2 ⟨e, he, hfeed⟩
    rw [mergeFeeds_content] at hmem
    obtain ⟨line, hline, hc⟩ := List.mem_flatten.1 (hcontent.subset hmem)
    exact not_mem_of_mem_splitLines hline hc
  · rw [mergeFeeds_content]
    exact hcontent

end Markup

end ReceiptPrinter

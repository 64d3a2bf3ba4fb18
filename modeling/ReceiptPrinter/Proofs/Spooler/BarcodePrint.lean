import ReceiptPrinter.Proofs.Markup.Escape
import ReceiptPrinter.Proofs.Spooler.Lifecycle
import ReceiptPrinter.Proofs.Spooler.Pieces

/-!
# Prints of a barcode

The content of a barcode is checked for what a symbol may hold, and then written into markup that is
read again. `PrintsOnly`: a ready spooler refuses the content or queues the barcode and the feed
after it, and nothing else, exactly unless the content is accepted with the closing tag of a barcode
in it (`Escapes`). What stands after that tag is then read as markup: the call is refused for its
markup, or the job prints something else.
-/

namespace ReceiptPrinter.Spooler

open Markup Markup.Buffer

variable {s : Spooler} {config : Config} {content : Text}

/-- The barcode that `printBarcode content` prints. -/
def barcodeOf (content : Text) : Barcode := { symbology := .code128, content := Text.trim content }

/-- The spooler after one more job is queued. -/
def withJob (s : Spooler) (body : JobBody) (config : Config) : Spooler :=
  { s with
    queue := s.queue ++ [.print s.jobs.length]
    jobs := s.jobs ++ [{ body, config }] }

/-- Whether `content` can be drawn as a symbol but leaves its tag. -/
def Escapes (content : Text) : Prop :=
  (∃ data, (barcodeOf content).data = .ok data) ∧
    HasClosing BlockKind.barcode.closing (barcodeOf content).content

/-- What `printBarcode` does if the content can do no harm: the content is refused, or the barcode
and the feed after it are queued. -/
inductive PrintsOnly (s : Spooler) (content : Text) : Answer → Spooler → Prop
  | refused (e : EncodingError) : PrintsOnly s content (.done (.error (.encoding e))) s
  | queued (config : Config) (hconfig : s.config = some config) :
    PrintsOnly s content (.job s.jobs.length)
      (s.withJob (.elements [.barcode (barcodeOf content), .feed 1] (some helperFeed)) config)

/-- What `printBarcode` does if the content adds a symbol. -/
inductive PrintsMore (s : Spooler) : Answer → Spooler → Prop
  | queued (es : List Element) (config : Config) (hconfig : s.config = some config)
    (hmore : 2 ≤ (es.filterMap Element.kind?).count .barcode) :
    PrintsMore s (.job s.jobs.length) (s.withJob (.elements es (some helperFeed)) config)

/-! ### The markup of a barcode -/

def barcodeMarkup (content : Text) : Text :=
  ((Buffer.empty.barcode (barcodeOf content)).feed 1).markup

/-- A content that stays inside its tag is read as it was given. -/
theorem parse_barcodeMarkup {data : List UInt8} (hdata : (barcodeOf content).data = .ok data)
    (hclosing : ¬HasClosing BlockKind.barcode.closing (barcodeOf content).content) :
    parse (barcodeMarkup content) = .ok [.barcode (barcodeOf content), .feed 1] := by
  have hbarcode : (Piece.barcode (barcodeOf content)).Means [.barcode (barcodeOf content)] :=
    .barcode (Text.trim_trim content) (Barcode.newline_notMem_content hdata) hclosing
      isFinitePositive_height (by simp [barcodeOf])
  have hpieces := standFor_pieces (.cons hbarcode (.cons (.feed 1) .nil))
  exact hpieces.parse_join (List.cons_ne_nil _ _)

/-- The markup of a content that can be drawn reads exactly if its barcode is `Readable`. -/
theorem exists_parse_barcodeMarkup_iff {data : List UInt8}
    (hdata : (barcodeOf content).data = .ok data) :
    (∃ es, parse (barcodeMarkup content) = .ok es) ↔ (barcodeOf content).Readable := by
  have hholds := (holds_barcode hdata).append (holds_feed 1)
  refine (exists_parse_buffer_iff hholds.one_line).trans (hholds.reads_iff.trans ?_)
  simp

/-- A content that `Escapes` its tag is read, if it can be read, as two barcodes at least. -/
theorem two_le_count_of_escapes {es : List Element} (h : Escapes content)
    (hparse : parse (barcodeMarkup content) = .ok es) :
    2 ≤ (es.filterMap Element.kind?).count .barcode := by
  obtain ⟨⟨data, hdata⟩, hclosing⟩ := h
  have hreadable := (exists_parse_barcodeMarkup_iff hdata).1 ⟨es, hparse⟩
  have htwo := two_le_count_printBarcode hclosing (reads_printBarcode_iff.2 hreadable)
  have hline := block_line (barcodeOf content).align .barcode
    (writable_barcodeAttributes (barcodeOf content)) (Barcode.newline_notMem_content hdata)
  rw [← printBarcode_eq] at hline
  have hone : ∀ line ∈ [Markup.printBarcode (barcodeOf content), alignTag .left], '\n' ∉ line :=
    ((holds_barcode hdata).append (holds_feed 1)).one_line
  have hlines : splitLines (barcodeMarkup content) =
      [Markup.printBarcode (barcodeOf content), alignTag .left] := by
    refine (splitLines_join (List.cons_ne_nil _ _) hone).trans ?_
    rw [List.map_cons, hline.2]
    rfl
  rw [kinds_parse hparse, hlines, List.flatMap_cons, List.count_append]
  exact Nat.le_add_right_of_le htwo

/-! ### Calls of a ready spooler -/

theorem enqueue_of_ready (hready : s.stage = .ready) (hconfig : s.config = some config)
    (hopen : s.isClosed = false) (body : JobBody) :
    s.enqueue body = .ok (s.jobs.length, s.withJob body config) := by
  unfold enqueue requireConfig
  rw [hready, hconfig, hopen]
  rfl

theorem call_printBarcode_of_error {e : EncodingError}
    (hdata : (barcodeOf content).data = .error e) :
    s.call (.printBarcode content) = (.done (.error (.encoding e)), s) := by
  have hcheck : checkBarcode (barcodeOf content) = .error (.encoding e) := by
    rw [checkBarcode, hdata]
  simp only [call, printBarcode]
  rw [← barcodeOf, hcheck]
  rfl

theorem call_printBarcode_of_ok {data : List UInt8} (hdata : (barcodeOf content).data = .ok data) :
    s.call (.printBarcode content) =
      s.jobAnswer (s.submit (barcodeMarkup content) (some helperFeed)) := by
  have hcheck : checkBarcode (barcodeOf content) = .ok () := by
    rw [checkBarcode, hdata]
  simp only [call, printBarcode]
  rw [← barcodeOf, hcheck, ok_bind, barcodeMarkup]

theorem call_printBarcode_of_unread {data : List UInt8} {e : Markup.Error}
    (hdata : (barcodeOf content).data = .ok data) (hparse : parse (barcodeMarkup content) = .error e) :
    s.call (.printBarcode content) = (.done (.error (.markup e)), s) := by
  rw [call_printBarcode_of_ok hdata, submit, hparse]
  rfl

theorem call_printBarcode_of_read {data : List UInt8} {es : List Element}
    (hready : s.stage = .ready) (hconfig : s.config = some config) (hopen : s.isClosed = false)
    (hdata : (barcodeOf content).data = .ok data) (hparse : parse (barcodeMarkup content) = .ok es) :
    s.call (.printBarcode content) =
      (.job s.jobs.length, s.withJob (.elements es (some helperFeed)) config) := by
  rw [call_printBarcode_of_ok hdata, submit, hparse]
  simp only [enqueue_of_ready hready hconfig hopen]
  rfl

/-- What a call of `printBarcode` comes to. -/
inductive BarcodeCalled (s : Spooler) (content : Text) : Answer → Spooler → Prop
  | refused (e : EncodingError) (hdata : (barcodeOf content).data = .error e) :
    BarcodeCalled s content (.done (.error (.encoding e))) s
  | only (data : List UInt8) (hdata : (barcodeOf content).data = .ok data)
    (hstays : ¬Escapes content) (config : Config) (hconfig : s.config = some config) :
    BarcodeCalled s content (.job s.jobs.length)
      (s.withJob (.elements [.barcode (barcodeOf content), .feed 1] (some helperFeed)) config)
  /-- What stands after the closing tag cannot be read. -/
  | unread (hescapes : Escapes content) (hunread : ¬(barcodeOf content).Readable)
    (e : Markup.Error) : BarcodeCalled s content (.done (.error (.markup e))) s
  /-- What stands after the closing tag is printed. -/
  | more (hescapes : Escapes content) (hread : (barcodeOf content).Readable) {answer : Answer}
    {s' : Spooler} (hmore : PrintsMore s answer s') : BarcodeCalled s content answer s'

theorem barcodeCalled (hready : s.stage = .ready) (hconfig : s.config = some config)
    (hopen : s.isClosed = false) (content : Text) :
    BarcodeCalled s content (s.call (.printBarcode content)).1
      (s.call (.printBarcode content)).2 := by
  cases hdata : (barcodeOf content).data with
  | error e =>
    rw [call_printBarcode_of_error hdata]
    exact .refused e hdata
  | ok data =>
    by_cases hclosing : HasClosing BlockKind.barcode.closing (barcodeOf content).content
    · have hescapes : Escapes content := ⟨⟨data, hdata⟩, hclosing⟩
      have hiff := exists_parse_barcodeMarkup_iff hdata
      cases hparse : parse (barcodeMarkup content) with
      | error e =>
        rw [call_printBarcode_of_unread hdata hparse]
        refine .unread hescapes (fun hread => ?_) e
        obtain ⟨es, hes⟩ := hiff.2 hread
        rw [hparse] at hes
        cases hes
      | ok es =>
        rw [call_printBarcode_of_read hready hconfig hopen hdata hparse]
        exact .more hescapes (hiff.1 ⟨es, hparse⟩)
          (.queued es config hconfig (two_le_count_of_escapes hescapes hparse))
    · rw [call_printBarcode_of_read hready hconfig hopen hdata
        (parse_barcodeMarkup hdata hclosing)]
      exact .only data hdata (fun h => hclosing h.2) config hconfig

/-! ### What the answer says about the content -/

theorem withJob_inj {body body' : JobBody} {config config' : Config}
    (h : s.withJob body config = s.withJob body' config') : body = body' := by
  have hjobs := List.append_cancel_left (congrArg Spooler.jobs h)
  exact congrArg Job.body (List.cons.inj hjobs).1

theorem PrintsOnly.not_more {answer : Answer} {s' : Spooler} (h : PrintsOnly s content answer s') :
    ¬PrintsMore s answer s' := by
  intro hmore
  generalize hs : s' = t at hmore
  cases hmore with
  | queued es config _ hcount =>
    cases h with
    | queued config' _ =>
      cases withJob_inj hs
      exact absurd hcount (Nat.not_succ_le_self 1)

namespace BarcodeCalled

variable {answer : Answer} {s' : Spooler} (h : BarcodeCalled s content answer s')

include h

theorem only_iff : PrintsOnly s content answer s' ↔ ¬Escapes content := by
  cases h with
  | refused e hdata =>
    refine iff_of_true (.refused e) ?_
    rintro ⟨⟨data, hok⟩, -⟩
    rw [hdata] at hok
    cases hok
  | only data hdata hstays config hconfig => exact iff_of_true (.queued config hconfig) hstays
  | unread hescapes hunread e => exact iff_of_false nofun (not_not_intro hescapes)
  | more hescapes hread hmore =>
    exact iff_of_false (fun honly => honly.not_more hmore) (not_not_intro hescapes)

theorem encoding_error_iff : (∃ e, answer = .done (.error (.encoding e))) ↔
    ¬∃ data, (barcodeOf content).data = .ok data := by
  cases h with
  | refused e hdata =>
    refine iff_of_true ⟨e, rfl⟩ ?_
    rintro ⟨data, hok⟩
    rw [hdata] at hok
    cases hok
  | only data hdata => exact iff_of_false nofun (not_not_intro ⟨data, hdata⟩)
  | unread hescapes hunread e => exact iff_of_false nofun (not_not_intro hescapes.1)
  | more hescapes hread hmore =>
    refine iff_of_false ?_ (not_not_intro hescapes.1)
    rintro ⟨e, rfl⟩
    cases hmore

theorem markup_error_iff : (∃ e, answer = .done (.error (.markup e))) ↔
    Escapes content ∧ ¬(barcodeOf content).Readable := by
  cases h with
  | refused e hdata =>
    refine iff_of_false nofun ?_
    rintro ⟨⟨⟨data, hok⟩, -⟩, -⟩
    rw [hdata] at hok
    cases hok
  | only data hdata hstays => exact iff_of_false nofun fun hescapes => hstays hescapes.1
  | unread hescapes hunread e => exact iff_of_true ⟨e, rfl⟩ ⟨hescapes, hunread⟩
  | more hescapes hread hmore =>
    refine iff_of_false ?_ fun hunread => hunread.2 hread
    rintro ⟨e, rfl⟩
    cases hmore

theorem more_iff : PrintsMore s answer s' ↔ Escapes content ∧ (barcodeOf content).Readable := by
  have honly := h.only_iff
  constructor
  · intro hmore
    cases h with
    | more hescapes hread => exact ⟨hescapes, hread⟩
    | only data hdata hstays => exact absurd hmore (honly.2 hstays).not_more
    | refused => cases hmore
    | unread => cases hmore
  · rintro ⟨hescapes, hread⟩
    cases h with
    | more _ _ hmore => exact hmore
    | only data hdata hstays => exact absurd hescapes hstays
    | unread _ hunread => exact absurd hread hunread
    | refused e hdata => exact absurd hescapes (honly.1 (.refused e))

end BarcodeCalled

/-- What a call of `printBarcode` does, and exactly when. -/
structure PrintsBarcode (s : Spooler) (content : Text) (answer : Answer) (s' : Spooler) : Prop where
  /-- The content is refused or only the barcode is printed, unless the content leaves its tag. -/
  only_iff : PrintsOnly s content answer s' ↔ ¬Escapes content
  /-- The content is refused if it cannot be drawn. -/
  encoding_error_iff : (∃ e, answer = .done (.error (.encoding e))) ↔
    ¬∃ data, (barcodeOf content).data = .ok data
  /-- The call is refused for its markup if what stands after the closing tag cannot be read. -/
  markup_error_iff : (∃ e, answer = .done (.error (.markup e))) ↔
    Escapes content ∧ ¬(barcodeOf content).Readable
  /-- Else the content adds a symbol. -/
  more_iff : PrintsMore s answer s' ↔ Escapes content ∧ (barcodeOf content).Readable

variable {writeDeadline drainDelay : Nat}

/-- A ready spooler `PrintsOnly` the barcode exactly unless the content `Escapes` its tag. -/
theorem printsBarcode_of_ready (actions : List Action) (content : Text)
    (hready : ((start writeDeadline drainDelay).run actions).stage = .ready)
    (hconfig : ((start writeDeadline drainDelay).run actions).config = some config) :
    PrintsBarcode ((start writeDeadline drainDelay).run actions) content
      (((start writeDeadline drainDelay).run actions).call (.printBarcode content)).1
      (((start writeDeadline drainDelay).run actions).call (.printBarcode content)).2 := by
  have hopen : ((start writeDeadline drainDelay).run actions).isClosed = false := by
    rw [isClosed, beq_eq_false_iff_ne]
    intro hstopped
    rcases (halted_run writeDeadline drainDelay actions).stage hstopped with h | h
    · simp [h] at hready
    · simp [h] at hready
  have hcalled := barcodeCalled hready hconfig hopen content
  exact ⟨hcalled.only_iff, hcalled.encoding_error_iff, hcalled.markup_error_iff, hcalled.more_iff⟩

/-- Other markup than the closing tag does no harm. -/
theorem printsBarcode_of_tags : ((start 1000 100).run untilReady).stage = .ready ∧
    ∃ config, ((start 1000 100).run untilReady).config = some config ∧
      PrintsBarcode ((start 1000 100).run untilReady) "[R]<b>7</b></barcode ".toList
        (((start 1000 100).run untilReady).call (.printBarcode "[R]<b>7</b></barcode ".toList)).1
        (((start 1000 100).run untilReady).call (.printBarcode "[R]<b>7</b></barcode ".toList)).2 :=
  ⟨rfl, _, rfl, printsBarcode_of_ready untilReady "[R]<b>7</b></barcode ".toList rfl rfl⟩

/-- A content with the closing tag in it passes `checkBarcode`, and the call is refused for its
markup. -/
theorem printBarcode_after_closing_tag : ((start 1000 100).run untilReady).stage = .ready ∧
    ((start 1000 100).run untilReady).config.isSome = true ∧
    checkBarcode (barcodeOf "a</barcode>".toList) = .ok () ∧
    ((start 1000 100).run untilReady).call (.printBarcode "a</barcode>".toList) =
      (.done (.error (.markup ⟨"</barcode>".toList, .nothingToClose⟩)),
        (start 1000 100).run untilReady) := by
  have hparse : parse (barcodeMarkup "a</barcode>".toList) =
      .error ⟨"</barcode>".toList, .nothingToClose⟩ := by
    decide +kernel
  exact ⟨rfl, rfl, rfl, call_printBarcode_of_unread rfl hparse⟩

/-- A content that opens another barcode adds it. -/
example : parse (barcodeMarkup "a</barcode><barcode type='128'>b".toList) =
    .ok [.barcode (barcodeOf ['a']), .barcode (barcodeOf ['b']), .feed 1] := by
  decide +kernel

end ReceiptPrinter.Spooler

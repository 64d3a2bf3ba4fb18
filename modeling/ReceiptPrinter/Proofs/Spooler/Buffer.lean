import ReceiptPrinter.Proofs.Markup.Readable
import ReceiptPrinter.Proofs.Spooler.Run

/-!
# The append buffer

What is appended is checked alone, but the buffer is read as one markup text. At every point of a
run the buffer can be read, and `startPrint` is not refused for its markup, exactly if every barcode
appended since the buffer was emptied last (`buffered`) is `Readable`. Text, pictures, QR codes and
feeds do no harm once they are accepted.
-/

namespace ReceiptPrinter

open Markup

/-! ### What is accepted stands on one line -/

namespace Barcode

theorem visible_of_all_isDigit {s : Text} (h : s.all Char.isDigit = true) : Text.Visible s := by
  intro c hc
  have hbounds := Text.isDigit_iff.1 (List.all_eq_true.1 h c hc)
  omega

theorem visible_of_numericData {payload : Nat} {content : Text} {data : List UInt8}
    (h : numericData payload content = .ok data) : Text.Visible content := by
  rw [numericData] at h
  by_cases hdigits : content.all Char.isDigit = true
  · exact visible_of_all_isDigit hdigits
  · rw [if_pos (by simp [hdigits])] at h
    cases h

theorem visible_of_code128Data {content : Text} {data : List UInt8}
    (h : code128Data content = .ok data) : Text.Visible content := by
  obtain ⟨⟨-, hprintable, -⟩, -⟩ := code128Data_eq_ok_iff.1 h
  intro c hc
  exact (isPrintable_iff.1 (hprintable c hc)).1

theorem visible_content {b : Barcode} {data : List UInt8} (h : b.data = .ok data) :
    Text.Visible b.content := by
  rcases b with ⟨symbology, content, height, width, textPosition, align⟩
  have hdata := data_eq_ok_iff.1 h
  cases symbology with
  | ean13 => exact visible_of_numericData hdata
  | ean8 => exact visible_of_numericData hdata
  | upcA => exact visible_of_numericData hdata
  | code128 => exact visible_of_code128Data hdata

theorem newline_notMem_content {b : Barcode} {data : List UInt8} (h : b.data = .ok data) :
    '\n' ∉ b.content :=
  fun hmem => absurd (visible_content h '\n' hmem) (by decide)

end Barcode

def Call.isAppend : Call → Bool
  | .appendText _ | .appendPicture .. | .appendBarcode _ | .appendQrCode .. | .appendFeed _ => true
  | _ => false

namespace Spooler

variable {s s' : Spooler}

theorem checkQrContent_eq_ok {content : Text} (h : checkQrContent content = .ok ()) :
    '\n' ∉ content ∧ ¬HasClosing BlockKind.qrCode.closing content := by
  unfold checkQrContent at h
  split at h
  · cases h
  · split at h
    · cases h
    · next hcheck =>
      rw [Bool.or_eq_true, not_or] at hcheck
      obtain ⟨hreturn, hclosing⟩ := hcheck
      constructor
      · intro hmem
        exact hreturn (List.any_eq_true.2 ⟨'\n', hmem, by decide⟩)
      · rintro ⟨t, ht, hlower⟩
        refine hclosing (Text.contains_iff.2 ?_)
        rw [← hlower]
        exact ht.map Char.toLower

/-! ### Lines of the buffer -/

/-- How the lines of a buffer and the calls that filled it correspond. -/
structure Holds (lines : List Text) (calls : List Call) : Prop where
  one_line : ∀ line ∈ lines, '\n' ∉ line
  reads_iff : (∀ line ∈ lines, Reads (Text.chomp line)) ↔
    ∀ b, .appendBarcode b ∈ calls → b.Readable

theorem holds_nil : Holds [] [] := ⟨by simp, by simp⟩

theorem Holds.append {lines lines' : List Text} {calls calls' : List Call} (h : Holds lines calls)
    (h' : Holds lines' calls') : Holds (lines ++ lines') (calls ++ calls') := by
  constructor
  · exact List.forall_mem_append.2 ⟨h.one_line, h'.one_line⟩
  · rw [List.forall_mem_append, h.reads_iff, h'.reads_iff]
    simp only [List.mem_append, or_imp, forall_and]

/-- A call that is no barcode adds lines that can be read. -/
theorem holds_of_reads {lines : List Text} {c : Call} (hc : ∀ b, c ≠ .appendBarcode b)
    (hone : ∀ line ∈ lines, '\n' ∉ line) (hreads : ∀ line ∈ lines, Reads (Text.chomp line)) :
    Holds lines [c] := by
  refine ⟨hone, fun _ b hb => ?_, fun _ => hreads⟩
  exact absurd (List.mem_singleton.1 hb).symm (hc b)

/-- The buffer parses exactly if each of its lines `Reads`. -/
theorem exists_parse_buffer_iff {buffer : Buffer} (h : ∀ line ∈ buffer.lines, '\n' ∉ line) :
    (∃ es, parse buffer.markup = .ok es) ↔ ∀ line ∈ buffer.lines, Reads (Text.chomp line) := by
  rw [exists_parse_iff, Buffer.markup]
  by_cases hnil : buffer.lines = []
  · rw [hnil]
    refine ⟨fun _ => by simp, fun _ line hline => ?_⟩
    rw [List.mem_singleton.1 hline]
    exact reads_nil
  · rw [splitLines_join hnil h, List.forall_mem_map]

theorem holds_text {markup : Text} {es : List Element} (h : parse markup = .ok es) :
    Holds (Buffer.textLines markup) [.appendText markup] := by
  have hreads := exists_parse_iff.1 ⟨es, h⟩
  have hone : ∀ line ∈ splitLines markup, '\n' ∉ line := fun _ => not_mem_of_mem_splitLines
  have hlines : ∀ line ∈ Buffer.textLines markup, Reads line ∧ '\n' ∉ line := by
    unfold Buffer.textLines
    split
    · simp
    · next first rest hsplit =>
      rw [hsplit, List.forall_mem_cons] at hreads hone
      rw [List.forall_mem_cons]
      refine ⟨⟨reads_alignTag_append.2 hreads.1, ?_⟩, fun line hline =>
        ⟨hreads.2 line hline, hone.2 line hline⟩⟩
      rw [List.mem_append, not_or]
      exact ⟨not_mem_alignTag .left, hone.1⟩
  exact holds_of_reads (by simp) (fun line hline => (hlines line hline).2)
    fun line hline => (hlines line hline).1.chomp

theorem holds_feed (n : Nat) : Holds (List.replicate n (alignTag .left)) [.appendFeed n] := by
  refine holds_of_reads (by simp) (fun line hline => ?_) fun line hline => ?_
  · rw [List.eq_of_mem_replicate hline]
    exact not_mem_alignTag .left
  · have hread : Reads (alignTag .left ++ []) := reads_alignTag_append.2 reads_nil
    rw [List.eq_of_mem_replicate hline]
    exact hread

theorem holds_picture (p : Picture) (base64 : Text) (decode : PictureDecoder) :
    Holds [Markup.printPicture p] [.appendPicture base64 decode] := by
  have hcontent : '\n' ∉ p.bitmap.toHex := fun hmem =>
    absurd (Hex.isHexDigit_of_mem_encode hmem) (by decide)
  have hnone : ∀ a ∈ ([] : List Attribute), a.Writable := by simp
  have hline := block_line p.align .picture hnone hcontent
  rw [← printPicture_eq] at hline
  refine holds_of_reads (by simp) (List.forall_mem_singleton.2 hline.1)
    (List.forall_mem_singleton.2 ?_)
  rw [hline.2]
  exact reads_of_parseLine (parseLine_printPicture p .left)

theorem holds_qrCode {q : QrCode} (hsize : 0 < q.moduleSize) (hcontent : '\n' ∉ q.content)
    (hclosing : ¬HasClosing BlockKind.qrCode.closing q.content) (size : UInt8) :
    Holds [Markup.printQrCode q] [.appendQrCode q.content size] := by
  have hline := block_line q.align .qrCode (writable_qrCodeAttributes q) hcontent
  rw [← printQrCode_eq] at hline
  refine holds_of_reads (by simp) (List.forall_mem_singleton.2 hline.1)
    (List.forall_mem_singleton.2 ?_)
  rw [hline.2]
  exact reads_of_parseLine (parseLine_printQrCode ⟨hsize, hclosing⟩ .left)

theorem holds_barcode {b : Barcode} {data : List UInt8} (h : b.data = .ok data) :
    Holds [Markup.printBarcode b] [.appendBarcode b] := by
  have hline := block_line b.align .barcode (writable_barcodeAttributes b)
    (Barcode.newline_notMem_content h)
  rw [← printBarcode_eq] at hline
  refine ⟨List.forall_mem_singleton.2 hline.1, ?_⟩
  rw [List.forall_mem_singleton, hline.2, reads_printBarcode_iff]
  simp only [List.mem_singleton, Call.appendBarcode.injEq, forall_eq]

/-- What an accepted append adds. -/
theorem appended_eq_ok {c : Call} (hc : c.isAppend = true) {buffer : Buffer}
    (h : s.appended c = .ok buffer) :
    ∃ lines, buffer = s.buffer.append lines ∧ Holds lines [c] := by
  cases c with
  | appendText markup =>
    simp only [appended] at h
    split at h
    · cases h
    · next es hparse =>
      cases h
      exact ⟨_, rfl, holds_text hparse⟩
  | appendPicture base64 decode =>
    obtain ⟨config, -, h⟩ := bind_eq_ok_iff.1 h
    obtain ⟨bitmap, -, h⟩ := bind_eq_ok_iff.1 h
    cases h
    exact ⟨_, rfl, holds_picture { bitmap } base64 decode⟩
  | appendBarcode b =>
    obtain ⟨_, hcheck, h⟩ := bind_eq_ok_iff.1 h
    cases h
    unfold checkBarcode at hcheck
    split at hcheck
    · next hdata => exact ⟨_, rfl, holds_barcode hdata⟩
    · cases hcheck
  | appendQrCode content size =>
    obtain ⟨_, hcheck, h⟩ := bind_eq_ok_iff.1 h
    cases h
    obtain ⟨hline, hclosing⟩ := checkQrContent_eq_ok hcheck
    have hsize : 0 < if size = 0 then QrCode.defaultSize else size := by
      split
      · decide
      · next hsize => exact UInt8.pos_iff_ne_zero.2 hsize
    exact ⟨_, rfl, holds_qrCode (q := { content, moduleSize := _ }) hsize hline hclosing size⟩
  | appendFeed n =>
    cases h
    exact ⟨_, rfl, holds_feed n⟩
  | _ => cases hc

/-! ### Runs -/

@[simp] theorem enter_buffer (s : Spooler) (stage : Stage) : (s.enter stage).buffer = s.buffer := by
  rw [enter_eq]

theorem Queues.jobAnswer_buffer {r : Except PrintError (Nat × Spooler)} (h : s.Queues r) :
    (s.jobAnswer r).2.buffer = s.buffer := by
  obtain ⟨e, rfl⟩ | ⟨body, config, -, -, -, rfl⟩ := h
  · rfl
  · rfl

/-- Only appends and `startPrint` change the buffer. -/
theorem call_buffer {c : Call} (hc : c.isAppend = false) (hstart : c ≠ .startPrint) :
    (s.call c).2.buffer = s.buffer := by
  cases c with
  | configure options =>
    simp only [call, configure]
    split
    · rfl
    · split <;> rfl
  | connect =>
    simp only [call, connect]
    split
    · rfl
    · split
      · rfl
      · rfl
      · rfl
      · split <;> simp [pushTicket, push]
      · split <;> simp [pushTicket, push]
  | disconnect =>
    simp only [call, disconnect]
    split <;> rfl
  | submit markup feed => exact (queues_submit s markup feed).jobAnswer_buffer
  | startPrint => exact absurd rfl hstart
  | printText markup lines => exact (queues_submit s markup _).jobAnswer_buffer
  | printFeed lines => exact (queues_submit s _ _).jobAnswer_buffer
  | printQrCode content =>
    exact (Queues.bind fun _ => queues_submit s _ _).jobAnswer_buffer
  | printBarcode content =>
    exact (Queues.bind fun _ => queues_submit s _ _).jobAnswer_buffer
  | printPicture base64 decode =>
    exact (Queues.bind fun _ => Queues.bind fun _ => queues_submit s _ _).jobAnswer_buffer
  | directPrint request decode =>
    exact (Queues.bind fun _ => Queues.bind fun _ => queues_submit s _ _).jobAnswer_buffer
  | cutPaper => exact (Queues.bind fun _ => queues_enqueue s _).jobAnswer_buffer
  | openDrawer => exact (Queues.bind fun _ => queues_enqueue s _).jobAnswer_buffer
  | cancel job =>
    simp only [call, cancel]
    split <;> rfl
  | shutdown => rfl
  | _ => cases hc

theorem Resumed.buffer_eq {job : Nat} {segments : List (List UInt8)}
    (h : Resumed s job segments s') : s'.buffer = s.buffer := by
  cases h with
  | writing => rfl
  | flushing => rfl
  | completed => rw [completeJob_eq]
  | failed => rw [faultJob_eq]

theorem Worked.buffer_eq (h : Worked s s') : s'.buffer = s.buffer := by
  cases h with
  | started job j segments queue _ hact hqueue hjob hphase hsegments hstage hconnected hr =>
    exact hr.buffer_eq
  | wrote job segment rest due channel _ hact hlive hfault hr => exact hr.buffer_eq
  | writeFailed => rw [faultJob_eq]
  | flushFailed => rw [faultJob_eq]
  | drained => rw [completeJob_eq]
  | _ => rfl

/-- The append calls accepted since the buffer was emptied last, after one more action. -/
def bufferedAfter (s : Spooler) (calls : List Call) : Action → List Call
  | .call .startPrint =>
    match s.startPrint.1 with
    | .job _ => []
    | _ => calls
  | .call c =>
    match c.isAppend, (s.call c).1 with
    | true, .done (.ok _) => calls ++ [c]
    | _, _ => calls
  | _ => calls

/-- The append calls accepted in a run since the buffer was emptied last. -/
def buffered (s : Spooler) (calls : List Call) : List Action → List Call
  | [] => calls
  | a :: actions => (s.act a).buffered (s.bufferedAfter calls a) actions

theorem holds_append {calls : List Call} (h : Holds s.buffer.lines calls) {c : Call}
    (hc : c.isAppend = true) (hcall : s.call c = s.append c) :
    Holds (s.call c).2.buffer.lines (match c.isAppend, (s.call c).1 with
      | true, .done (.ok _) => calls ++ [c]
      | _, _ => calls) := by
  rw [hc, hcall, append]
  cases happended : s.appended c with
  | error e => exact h
  | ok buffer =>
    obtain ⟨lines, rfl, hlines⟩ := appended_eq_ok hc happended
    exact h.append hlines

theorem holds_startPrint {calls : List Call} (h : Holds s.buffer.lines calls) :
    Holds s.startPrint.2.buffer.lines (match s.startPrint.1 with
      | .job _ => []
      | _ => calls) := by
  unfold startPrint
  split
  · exact holds_nil
  · exact h

theorem act_buffer {a : Action} (ha : ∀ c, a ≠ .call c) : (s.act a).buffer = s.buffer := by
  have h := happened s a
  generalize s.act a = s' at h
  cases h with
  | call c => exact absurd rfl (ha c)
  | work _ hw => exact hw.buffer_eq
  | _ => rfl

/-- An action changes the buffer together with the calls that fill it. -/
theorem holds_act {calls : List Call} (h : Holds s.buffer.lines calls) (a : Action) :
    Holds (s.act a).buffer.lines (s.bufferedAfter calls a) := by
  cases a with
  | call c =>
    by_cases hc : c.isAppend = true
    · cases c with
      | appendText markup => exact holds_append h rfl rfl
      | appendPicture base64 decode => exact holds_append h rfl rfl
      | appendBarcode b => exact holds_append h rfl rfl
      | appendQrCode content size => exact holds_append h rfl rfl
      | appendFeed n => exact holds_append h rfl rfl
      | _ => cases hc
    · have hc : c.isAppend = false := Bool.eq_false_iff.2 hc
      by_cases hstart : c = .startPrint
      · rw [hstart]
        exact holds_startPrint h
      · have hkept : s.bufferedAfter calls (.call c) = calls := by
          unfold bufferedAfter
          split
          · next heq => exact absurd (Action.call.inj heq) hstart
          · next heq =>
            cases heq
            rw [hc]
          · rfl
        rw [hkept]
        show Holds (s.call c).2.buffer.lines calls
        rw [call_buffer hc hstart]
        exact h
  | work =>
    rw [act_buffer (by simp)]
    exact h
  | stop =>
    rw [act_buffer (by simp)]
    exact h
  | change c =>
    rw [act_buffer (by simp)]
    exact h
  | advance ms =>
    rw [act_buffer (by simp)]
    exact h

/-- The buffer at the end of a run `Holds` what the appends of the run have left in it. -/
theorem holds_run {calls : List Call} (h : Holds s.buffer.lines calls) (actions : List Action) :
    Holds (s.run actions).buffer.lines (s.buffered calls actions) := by
  induction actions generalizing s calls with
  | nil => exact h
  | cons a actions ih => exact ih (holds_act h a)

theorem enqueue_ne_markup (body : JobBody) (e : Markup.Error) :
    s.enqueue body ≠ .error (.markup e) := by
  unfold enqueue requireConfig
  split
  · simp
  · cases s.config with
    | none => simp
    | some config =>
      simp only
      split <;> simp

theorem exists_startPrint_markup_iff :
    (∃ e, (s.call .startPrint).1 = .done (.error (.markup e))) ↔
      ¬∃ es, parse s.buffer.markup = .ok es := by
  simp only [call, startPrint, submit]
  cases hparse : parse s.buffer.markup with
  | error e => exact ⟨fun _ => by simp, fun _ => ⟨e, rfl⟩⟩
  | ok es =>
    refine ⟨?_, fun h => absurd ⟨es, rfl⟩ h⟩
    rintro ⟨e, h⟩
    cases hqueue : s.enqueue (.elements es none) with
    | error e' =>
      simp only [hqueue, Answer.done.injEq, Except.error.injEq] at h
      rw [h] at hqueue
      exact absurd hqueue (enqueue_ne_markup _ e)
    | ok p =>
      simp only [hqueue, reduceCtorEq] at h

/-- A barcode that cannot be read keeps the buffer from being emptied. -/
theorem mem_bufferedAfter {calls : List Call} (h : Holds s.buffer.lines calls) {b : Barcode}
    (hb : .appendBarcode b ∈ calls) (hunreadable : ¬b.Readable) (a : Action) :
    .appendBarcode b ∈ s.bufferedAfter calls a := by
  unfold bufferedAfter
  split
  · split
    · next job hanswer =>
      have hnever : ¬∃ es, parse s.buffer.markup = .ok es := by
        rw [exists_parse_buffer_iff h.one_line, h.reads_iff]
        exact fun hall => hunreadable (hall b hb)
      obtain ⟨e, he⟩ := exists_startPrint_markup_iff.2 hnever
      rw [show (s.call .startPrint).1 = s.startPrint.1 from rfl, hanswer] at he
      cases he
    · exact hb
  · split
    · exact List.mem_append_left _ hb
    · exact hb
  · exact hb

theorem mem_buffered {calls : List Call} (h : Holds s.buffer.lines calls) {b : Barcode}
    (hb : .appendBarcode b ∈ calls) (hunreadable : ¬b.Readable) (actions : List Action) :
    .appendBarcode b ∈ s.buffered calls actions := by
  induction actions generalizing s calls with
  | nil => exact hb
  | cons a actions ih => exact ih (holds_act h a) (mem_bufferedAfter h hb hunreadable a)

variable (writeDeadline drainDelay : Nat)

/-- The buffer parses, and `startPrint` is not refused for its markup, exactly if every barcode in
it is `Readable`. -/
theorem buffer_readable_iff (actions : List Action) :
    ((∃ es, parse ((start writeDeadline drainDelay).run actions).buffer.markup = .ok es) ↔
      ∀ b, .appendBarcode b ∈ (start writeDeadline drainDelay).buffered [] actions → b.Readable) ∧
    ((∃ e, (((start writeDeadline drainDelay).run actions).call .startPrint).1 =
        .done (.error (.markup e))) ↔
      ∃ b, .appendBarcode b ∈ (start writeDeadline drainDelay).buffered [] actions ∧
        ¬b.Readable) := by
  have hholds := holds_run (s := start writeDeadline drainDelay) holds_nil actions
  have hparse := (exists_parse_buffer_iff hholds.one_line).trans hholds.reads_iff
  refine ⟨hparse, ?_⟩
  rw [exists_startPrint_markup_iff, hparse]
  simp only [not_forall, exists_prop]

/-- A buffer that cannot be read is not emptied by whatever happens after. -/
theorem buffer_unreadable_run {actions : List Action}
    (h : ¬∃ es, parse ((start writeDeadline drainDelay).run actions).buffer.markup = .ok es)
    (after : List Action) :
    ¬∃ es, parse ((start writeDeadline drainDelay).run (actions ++ after)).buffer.markup =
      .ok es := by
  have hholds := holds_run (s := start writeDeadline drainDelay) holds_nil actions
  have hafter := holds_run hholds after
  rw [exists_parse_buffer_iff hholds.one_line, hholds.reads_iff] at h
  rw [run_append, exists_parse_buffer_iff hafter.one_line, hafter.reads_iff]
  simp only [not_forall] at h
  obtain ⟨b, hb, hunreadable⟩ := h
  exact fun hall => hunreadable (hall b (mem_buffered hholds hb hunreadable after))

/-- A barcode with the closing tag in its content is accepted, and the buffer cannot be printed any
more. -/
theorem startPrint_after_closing_tag :
    ((start 1000 100).call (.appendBarcode
        { symbology := .code128, content := "a</barcode>".toList })).1 = .done (.ok ()) ∧
      (((start 1000 100).run [.call (.appendBarcode
        { symbology := .code128, content := "a</barcode>".toList })]).call .startPrint).1 =
        .done (.error (.markup ⟨"</barcode>".toList, .nothingToClose⟩)) := by
  have hparse : parse (Buffer.empty.barcode
      { symbology := .code128, content := "a</barcode>".toList }).markup =
        .error ⟨"</barcode>".toList, .nothingToClose⟩ := by
    decide +kernel
  refine ⟨rfl, ?_⟩
  have hbuffer : ((start 1000 100).run [.call (.appendBarcode
      { symbology := .code128, content := "a</barcode>".toList })]).buffer =
        Buffer.empty.barcode { symbology := .code128, content := "a</barcode>".toList } := rfl
  simp only [call, startPrint, submit, hbuffer, hparse]

end Spooler

end ReceiptPrinter

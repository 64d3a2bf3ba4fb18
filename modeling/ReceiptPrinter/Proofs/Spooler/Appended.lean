import ReceiptPrinter.Proofs.Spooler.Pieces
import ReceiptPrinter.Proofs.Spooler.Refusal

/-!
# From the buffer to jobs

Appends push lines into the buffer, and printing the buffer hands all of them over to a job. In
every run the lines `pushed` are the lines `handedOver` followed by the lines still buffered; each
hand-over is a job of its own, which prints exactly its lines, and a print of the buffer that is
refused changes nothing.
-/

namespace ReceiptPrinter.Spooler

open Markup Markup.Buffer

variable {s : Spooler}

/-! ### Lines pushed and handed over -/

/-- The piece that a call adds to the buffer if it succeeds. -/
def addition (s : Spooler) : Call → Option Piece
  | .appendText markup => some (.text markup)
  | .appendPicture base64 decode => do
    let config ← s.config
    let bitmap ← (readPicture decode config base64).toOption
    return .picture bitmap
  | .appendBarcode b => some (.barcode b)
  | .appendQrCode content size =>
    some (.qrCode content (if size = 0 then QrCode.defaultSize else size))
  | .appendFeed lines => some (.feed lines)
  | _ => none

/-- The lines that an action pushes into the buffer. -/
def pushed (s : Spooler) : Action → List Text
  | .call c =>
    match (s.call c).1 with
    | .done (.ok ()) => (s.addition c).toList.flatMap Piece.lines
    | _ => []
  | _ => []

/-- The job that an action hands the buffer over to, with its lines. -/
def handedOver (s : Spooler) : Action → List (Nat × List Text)
  | .call .startPrint =>
    match (s.call .startPrint).1 with
    | .job job => [(job, s.buffer.lines)]
    | _ => []
  | _ => []

theorem exists_addition_of_appended {c : Call} (hc : c.isAppend = true) {buffer : Buffer}
    (h : s.appended c = .ok buffer) :
    ∃ piece, s.addition c = some piece ∧ buffer = s.buffer.add piece := by
  cases c with
  | appendText markup =>
    simp only [appended] at h
    split at h
    · cases h
    · cases h
      exact ⟨_, rfl, rfl⟩
  | appendPicture base64 decode =>
    obtain ⟨config, hconfig, h⟩ := bind_eq_ok_iff.1 h
    obtain ⟨bitmap, hbitmap, h⟩ := bind_eq_ok_iff.1 h
    cases h
    refine ⟨.picture bitmap, ?_, rfl⟩
    rw [addition, requireConfig_eq_ok_iff.1 hconfig]
    show (readPicture decode config base64).toOption.bind _ = _
    rw [hbitmap]
    rfl
  | appendBarcode b =>
    obtain ⟨_, -, h⟩ := bind_eq_ok_iff.1 h
    cases h
    exact ⟨_, rfl, rfl⟩
  | appendQrCode content size =>
    obtain ⟨_, -, h⟩ := bind_eq_ok_iff.1 h
    cases h
    exact ⟨_, rfl, rfl⟩
  | appendFeed lines =>
    cases h
    exact ⟨_, rfl, rfl⟩
  | _ => cases hc

theorem addition_eq_none {c : Call} (hc : c.isAppend = false) : s.addition c = none := by
  cases c <;> first | rfl | cases hc

theorem call_eq_append {c : Call} (hc : c.isAppend = true) : s.call c = s.append c := by
  cases c <;> first | rfl | cases hc

theorem enqueue_eq_ok {body : JobBody} {p : Nat × Spooler} (h : s.enqueue body = .ok p) :
    ∃ config, s.config = some config ∧ p = (s.jobs.length, { s with
      queue := s.queue ++ [.print s.jobs.length]
      jobs := s.jobs ++ [{ body, config }] }) := by
  unfold enqueue at h
  split at h
  · cases h
  · split at h
    · cases h
    · next config hconfig =>
      split at h
      · cases h
      · cases h
        exact ⟨config, requireConfig_eq_ok_iff.1 hconfig, rfl⟩

/-- `startPrint` is refused and changes nothing, or hands all of the buffer over to a new job. -/
theorem startPrint_cases (s : Spooler) :
    (∃ e, s.startPrint = (.done (.error e), s)) ∨
    ∃ es config, parse (Text.join '\n' s.buffer.lines) = .ok es ∧
      s.startPrint = (.job s.jobs.length, { s with
        buffer := .empty
        queue := s.queue ++ [.print s.jobs.length]
        jobs := s.jobs ++ [{ body := .elements es none, config }] }) := by
  unfold startPrint submit
  cases hparse : parse s.buffer.markup with
  | error e => exact .inl ⟨.markup e, rfl⟩
  | ok es =>
    cases hqueue : s.enqueue (.elements es none) with
    | error e => exact .inl ⟨e, by simp only [hqueue]⟩
    | ok p =>
      obtain ⟨config, -, rfl⟩ := enqueue_eq_ok hqueue
      exact .inr ⟨es, config, hparse, by simp only [hqueue]⟩

theorem handedOver_eq_nil {a : Action} (ha : a ≠ .call .startPrint) : s.handedOver a = [] := by
  unfold handedOver
  split
  · exact absurd rfl ha
  · rfl

theorem pushed_eq_nil {c : Call} (hc : c.isAppend = false) : s.pushed (.call c) = [] := by
  unfold pushed
  simp only [addition_eq_none hc]
  split <;> rfl

theorem lines_append {c : Call} (hc : c.isAppend = true) :
    s.buffer.lines ++ s.pushed (.call c) = (s.call c).2.buffer.lines := by
  rw [pushed, call_eq_append hc, append]
  cases happended : s.appended c with
  | error e => exact List.append_nil _
  | ok buffer =>
    obtain ⟨piece, hpiece, rfl⟩ := exists_addition_of_appended hc happended
    simp only [hpiece, Option.toList_some, List.flatMap_singleton, add_lines]

theorem lines_startPrint (s : Spooler) :
    s.buffer.lines =
      (s.handedOver (.call .startPrint)).flatMap Prod.snd ++ s.startPrint.2.buffer.lines := by
  have hcall : s.call .startPrint = s.startPrint := rfl
  rw [handedOver, hcall]
  obtain ⟨e, hrefused⟩ | ⟨es, config, -, haccepted⟩ := s.startPrint_cases
  · simp only [hrefused, List.flatMap_nil, List.nil_append]
  · simp only [haccepted, List.flatMap_singleton]
    exact (List.append_nil _).symm

/-- What is `pushed` by an action joins the buffer behind what is `handedOver`. -/
theorem lines_act (s : Spooler) (a : Action) :
    s.buffer.lines ++ s.pushed a =
      (s.handedOver a).flatMap Prod.snd ++ (s.act a).buffer.lines := by
  by_cases ha : ∃ c, a = .call c
  · obtain ⟨c, rfl⟩ := ha
    have hact : s.act (.call c) = (s.call c).2 := rfl
    by_cases hc : c.isAppend = true
    · have hnone : s.handedOver (.call c) = [] := by
        refine handedOver_eq_nil ?_
        rintro ⟨⟩
        cases hc
      rw [hnone, hact, lines_append hc]
      rfl
    · have hc : c.isAppend = false := Bool.eq_false_iff.2 hc
      rw [pushed_eq_nil hc, List.append_nil]
      by_cases hstart : c = .startPrint
      · subst hstart
        exact lines_startPrint s
      · rw [handedOver_eq_nil (by simpa using hstart), hact, call_buffer hc hstart]
        rfl
  · have hcall : ∀ c, a ≠ .call c := fun c hc => ha ⟨c, hc⟩
    have hpushed : s.pushed a = [] := by
      unfold pushed
      split
      · exact absurd rfl (hcall _)
      · rfl
    rw [hpushed, handedOver_eq_nil (hcall _), act_buffer hcall, List.append_nil]
    rfl

/-! ### Runs -/

theorem orders_isPrefix_act (s : Spooler) (a : Action) : s.orders <+: (s.act a).orders := by
  by_cases ha : ∃ c, a = .call c
  · obtain ⟨c, rfl⟩ := ha
    obtain heq | ⟨body, config, -, -, heq⟩ := (called s c).orders
    · exact heq ▸ List.prefix_rfl
    · exact heq ▸ List.prefix_append _ _
  · exact (happened s a).orders (fun c hc => ha ⟨c, hc⟩) ▸ List.prefix_rfl

/-- An action hands nothing over, or the whole buffer to a new job that prints what it reads as. -/
theorem handedOver_cases (s : Spooler) (a : Action) :
    s.handedOver a = [] ∨ ∃ es config, s.handedOver a = [(s.orders.length, s.buffer.lines)] ∧
      parse (Text.join '\n' s.buffer.lines) = .ok es ∧
      (s.act a).orders = s.orders ++ [(.elements es none, config)] := by
  by_cases ha : a = .call .startPrint
  · subst ha
    have hcall : s.call .startPrint = s.startPrint := rfl
    have hact : s.act (.call .startPrint) = s.startPrint.2 := rfl
    rw [handedOver, hcall, hact]
    obtain ⟨e, hrefused⟩ | ⟨es, config, hparse, haccepted⟩ := s.startPrint_cases
    · exact .inl (by rw [hrefused])
    · refine .inr ⟨es, config, ?_, hparse, ?_⟩
      · rw [haccepted, orders, List.length_map]
      · rw [haccepted]
        exact List.map_append
  · exact .inl (handedOver_eq_nil ha)

/-- What is handed over in a run, each time to another job. -/
structure HandsOver (s : Spooler) (log : List (Nat × List Text)) : Prop where
  ordered : ∀ job lines, (job, lines) ∈ log → ∃ es config,
    parse (Text.join '\n' lines) = .ok es ∧ s.orders[job]? = some (.elements es none, config)
  increasing : (log.map Prod.fst).Pairwise (· < ·)

theorem HandsOver.mono {s' : Spooler} {log : List (Nat × List Text)} (h : s.HandsOver log)
    (horders : s.orders <+: s'.orders) : s'.HandsOver log where
  ordered := fun job lines hmem => by
    obtain ⟨es, config, hparse, horder⟩ := h.ordered job lines hmem
    exact ⟨es, config, hparse, getElem?_of_isPrefix horders horder⟩
  increasing := h.increasing

theorem HandsOver.act {log : List (Nat × List Text)} (h : s.HandsOver log) (a : Action) :
    (s.act a).HandsOver (log ++ s.handedOver a) := by
  have hkept := h.mono (s.orders_isPrefix_act a)
  obtain hnil | ⟨es, config, hnew, hparse, horders⟩ := s.handedOver_cases a
  · rw [hnil, List.append_nil]
    exact hkept
  · rw [hnew]
    refine ⟨fun job lines hmem => ?_, ?_⟩
    · obtain hold | hlast := List.mem_append.1 hmem
      · exact hkept.ordered job lines hold
      · obtain ⟨rfl, rfl⟩ : job = s.orders.length ∧ lines = s.buffer.lines := by simpa using hlast
        exact ⟨es, config, hparse, by rw [horders, List.getElem?_concat_length]⟩
    · rw [List.map_append, List.pairwise_append]
      refine ⟨h.increasing, List.pairwise_singleton _ _, fun job hjob new hmem => ?_⟩
      obtain rfl : new = s.orders.length := by simpa using hmem
      obtain ⟨⟨_, lines⟩, hentry, rfl⟩ := List.mem_map.1 hjob
      obtain ⟨_, _, -, horder⟩ := h.ordered _ lines hentry
      exact (List.getElem?_eq_some_iff.1 horder).1

variable (writeDeadline drainDelay : Nat)

theorem handsOver_run (actions : List Action) :
    ((start writeDeadline drainDelay).run actions).HandsOver
      (history handedOver (start writeDeadline drainDelay) actions) := by
  induction actions using List.reverseRecOn with
  | nil => exact ⟨by simp [history], by simp [history]⟩
  | append_singleton actions a ih =>
    rw [run_concat, history_concat]
    exact ih.act a

/-- In every run the lines `pushed` are those `handedOver` to jobs and then those still buffered.
The jobs are all different, each prints what its lines read as, and a `startPrint` that hands
nothing over changes nothing. -/
theorem history_pushed_eq (actions : List Action) :
    let s := start writeDeadline drainDelay
    history pushed s actions =
      (history handedOver s actions).flatMap Prod.snd ++ (s.run actions).buffer.lines ∧
    (s.run actions).HandsOver (history handedOver s actions) ∧
    ((∃ e, (s.run actions).call .startPrint = (.done (.error e), s.run actions)) ∨
      (s.run actions).handedOver (.call .startPrint) =
        [((s.run actions).jobs.length, (s.run actions).buffer.lines)]) := by
  intro s
  refine ⟨?_, handsOver_run writeDeadline drainDelay actions, ?_⟩
  · induction actions using List.reverseRecOn with
    | nil => rfl
    | append_singleton actions a ih =>
      rw [history_concat, history_concat, ih, List.append_assoc, lines_act, run_concat,
        List.flatMap_append, List.append_assoc]
  · obtain ⟨e, hrefused⟩ | ⟨es, config, -, haccepted⟩ := (s.run actions).startPrint_cases
    · exact .inl ⟨e, hrefused⟩
    · refine .inr ?_
      rw [handedOver, call, haccepted]

end ReceiptPrinter.Spooler

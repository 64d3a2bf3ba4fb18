import ReceiptPrinter.Proofs.Except
import ReceiptPrinter.Spooler.Call

/-!
# What calls do

`Called` has a case for everything that a call may answer and change, with the conditions under
which it does.
-/

namespace ReceiptPrinter.Spooler

variable {s s' : Spooler}

/-! ### Records of a spooler -/

def entered (s : Spooler) (stage : Stage) : List Stage :=
  if s.stage = stage then s.transitions else s.transitions ++ [stage]

theorem enter_eq (s : Spooler) (stage : Stage) :
    s.enter stage = { s with stage, transitions := s.entered stage } := by
  unfold enter entered
  split
  · next h => rw [← h]
  · rfl

def outcomes (jobs : List Job) (job : Nat) (result : PrintResult) : List Job :=
  jobs.modify job fun j => { j with outcome := some result }

theorem finishJob_eq (s : Spooler) (job : Nat) (result : PrintResult) :
    s.finishJob job result = { s with jobs := outcomes s.jobs job result } := rfl

theorem completeJob_eq (s : Spooler) (job : Nat) :
    s.completeJob job = { s with
      activity := .waiting
      stage := .ready
      transitions := s.entered .ready
      jobs := outcomes s.jobs job (.ok ()) } := by
  rw [completeJob, enter_eq]
  rfl

theorem failJob_eq (s : Spooler) (job : Nat) (e : ConnectionError) :
    s.failJob job e = { s with
      activity := .waiting
      stage := .faulted
      transitions := s.entered .faulted
      jobs := outcomes s.jobs job (.error (.connection e)) } := by
  rw [failJob, enter_eq]
  rfl

theorem faultJob_eq (s : Spooler) (job : Nat) (e : ConnectionError) :
    s.faultJob job e = { s with
      connection := (s.connection.fault s.link).1
      link := (s.connection.fault s.link).2
      activity := .waiting
      stage := .faulted
      transitions := s.entered .faulted
      jobs := outcomes s.jobs job (.error (.connection e)) } := by
  show ({ s with
    connection := (s.connection.fault s.link).1
    link := (s.connection.fault s.link).2 } : Spooler).failJob job e = _
  rw [failJob_eq]
  rfl

/-- A spooler whose connection has been closed by the worker. -/
theorem closeConnection_enter_eq (s : Spooler) :
    s.closeConnection.enter .idle = { s with
      connection := (s.connection.close s.link).1
      link := (s.connection.close s.link).2
      stage := .idle
      transitions := s.entered .idle } := by
  rw [enter_eq]
  rfl

/-! ### Calls -/

/-- What a call answers and does. -/
inductive Called (s : Spooler) : Call → Answer → Spooler → Prop
  | refused {c : Call} (e : PrintError) : Called s c (.done (.error e)) s
  /-- The connection is open. -/
  | connected (h : s.stage = .ready ∨ s.stage = .printing) : Called s .connect (.done (.ok ())) s
  | appended {c : Call} (buffer : Markup.Buffer) (h : s.appended c = .ok buffer) :
    Called s c (.done (.ok ())) { s with buffer }
  | shutdown : Called s .shutdown (.done (.ok ())) { s with shutdown := true }
  | unknown (job : Nat) (h : s.jobs[job]? = none) : Called s (.cancel job) (.cancelled false) s
  | cancelled (job : Nat) (j : Job) (h : s.jobs[job]? = some j) :
    Called s (.cancel job) (.cancelled j.cancel.1) (s.updateJob job fun j => j.cancel.2)
  | installed (options : Options) (config : Config) (hconfig : Config.build options = .ok config)
    (hclosed : s.isClosed = true) :
    Called s (.configure options) (.done (.error .closed)) { s with config := some config }
  | configured (options : Options) (config : Config) (hconfig : Config.build options = .ok config)
    (hopen : s.isClosed = false) :
    Called s (.configure options) (.ticket s.tickets.length) { s with
      config := some config
      queue := s.queue ++ [.configure config s.tickets.length]
      tickets := s.tickets ++ [none] }
  | connectClosed (config : Config) (hconfig : s.config = some config)
    (hstage : s.stage = .idle ∨ s.stage = .faulted) (hclosed : s.isClosed = true) :
    Called s .connect (.done (.error .closed)) ((s.enter .connecting).enter .faulted)
  | connecting (config : Config) (hconfig : s.config = some config)
    (hstage : s.stage = .idle ∨ s.stage = .faulted) (hopen : s.isClosed = false) :
    Called s .connect (.ticket s.tickets.length) { s with
      stage := .connecting
      transitions := s.entered .connecting
      queue := s.queue ++ [.connect config s.tickets.length]
      tickets := s.tickets ++ [none] }
  | forgotten (hclosed : s.isClosed = true) :
    Called s .disconnect (.done (.ok ())) { s with config := none }
  | disconnecting (hopen : s.isClosed = false) :
    Called s .disconnect (.ticket s.tickets.length) { s with
      config := none
      queue := s.queue ++ [.disconnect s.tickets.length]
      tickets := s.tickets ++ [none] }
  | accepted {c : Call} (body : JobBody) (config : Config) (buffer : Markup.Buffer)
    (hstage : s.stage.acceptsJobs = true) (hconfig : s.config = some config)
    (hopen : s.isClosed = false) :
    Called s c (.job s.jobs.length) { s with
      buffer
      queue := s.queue ++ [.print s.jobs.length]
      jobs := s.jobs ++ [{ body, config }] }

theorem requireConfig_eq_ok_iff {config : Config} :
    s.requireConfig = .ok config ↔ s.config = some config := by
  unfold requireConfig
  cases s.config with
  | none => simp
  | some c => simp

/-- A job is refused, or accepted under the installed configuration. -/
def Queues (s : Spooler) (r : Except PrintError (Nat × Spooler)) : Prop :=
  (∃ e, r = .error e) ∨
  ∃ body config, s.stage.acceptsJobs = true ∧ s.config = some config ∧ s.isClosed = false ∧
    r = .ok (s.jobs.length, { s with
      queue := s.queue ++ [.print s.jobs.length]
      jobs := s.jobs ++ [{ body, config }] })

theorem queues_enqueue (s : Spooler) (body : JobBody) : s.Queues (s.enqueue body) := by
  unfold enqueue
  by_cases hstage : s.stage.acceptsJobs = true
  · rw [if_neg (by simp [hstage])]
    cases hconfig : s.requireConfig with
    | error e => exact .inl ⟨e, rfl⟩
    | ok config =>
      by_cases hclosed : s.isClosed = true
      · exact .inl ⟨.closed, by simp only [hclosed, if_true]⟩
      · refine .inr ⟨body, config, hstage, requireConfig_eq_ok_iff.1 hconfig,
          Bool.eq_false_iff.2 hclosed, ?_⟩
        simp only [hclosed]
        rfl
  · exact .inl ⟨.notReady s.stage, by rw [if_pos (by simp [hstage])]⟩

theorem queues_submit (s : Spooler) (markup : Text) (feed : Option Number.Single) :
    s.Queues (s.submit markup feed) := by
  unfold submit
  cases Markup.parse markup with
  | error e => exact .inl ⟨.markup e, rfl⟩
  | ok elements => exact queues_enqueue s _

theorem Queues.bind {α : Type} {x : Except PrintError α}
    {f : α → Except PrintError (Nat × Spooler)} (h : ∀ a, s.Queues (f a)) : s.Queues (x >>= f) := by
  cases x with
  | error e => exact .inl ⟨e, rfl⟩
  | ok a => exact h a

theorem Queues.called {r : Except PrintError (Nat × Spooler)} (h : s.Queues r) (c : Call) :
    Called s c (s.jobAnswer r).1 (s.jobAnswer r).2 := by
  obtain ⟨e, rfl⟩ | ⟨body, config, hstage, hconfig, hopen, rfl⟩ := h
  · exact .refused e
  · exact .accepted body config s.buffer hstage hconfig hopen

theorem called_configure (s : Spooler) (options : Options) :
    Called s (.configure options) (s.configure options).1 (s.configure options).2 := by
  unfold configure
  cases hconfig : Config.build options with
  | error e => exact .refused _
  | ok config =>
    by_cases hclosed : s.isClosed = true
    · have hif : ({ s with config := some config } : Spooler).isClosed = true := hclosed
      simp only [hif, if_true]
      exact .installed options config hconfig hclosed
    · have hif : ({ s with config := some config } : Spooler).isClosed = false :=
        Bool.eq_false_iff.2 hclosed
      simp only [hif]
      exact .configured options config hconfig hif

theorem called_connect (s : Spooler) : Called s .connect s.connect.1 s.connect.2 := by
  have hattempt : ∀ config, s.config = some config → s.stage = .idle ∨ s.stage = .faulted →
      Called s .connect
        (if (s.enter .connecting).isClosed then
          ((.done (.error .closed) : Answer), (s.enter .connecting).enter .faulted)
        else (s.enter .connecting).pushTicket (.connect config)).1
        (if (s.enter .connecting).isClosed then
          ((.done (.error .closed) : Answer), (s.enter .connecting).enter .faulted)
        else (s.enter .connecting).pushTicket (.connect config)).2 := by
    intro config hconfig hstage
    have hsame : (s.enter .connecting).isClosed = s.isClosed := by rw [enter_eq]; rfl
    by_cases hclosed : s.isClosed = true
    · rw [if_pos (by rw [hsame, hclosed])]
      exact .connectClosed config hconfig hstage hclosed
    · rw [if_neg (by rw [hsame]; exact hclosed), enter_eq]
      exact .connecting config hconfig hstage (Bool.eq_false_iff.2 hclosed)
  unfold connect
  cases hconfig : s.requireConfig with
  | error e => exact .refused e
  | ok config =>
    have hconfig := requireConfig_eq_ok_iff.1 hconfig
    cases hstage : s.stage with
    | connecting => exact .refused _
    | ready => exact .connected (.inl hstage)
    | printing => exact .connected (.inr hstage)
    | idle => exact hattempt config hconfig (.inl hstage)
    | faulted => exact hattempt config hconfig (.inr hstage)

theorem called_disconnect (s : Spooler) :
    Called s .disconnect s.disconnect.1 s.disconnect.2 := by
  unfold disconnect
  by_cases hclosed : s.isClosed = true
  · have hif : ({ s with config := none } : Spooler).isClosed = true := hclosed
    simp only [hif, if_true]
    exact .forgotten hclosed
  · have hif : ({ s with config := none } : Spooler).isClosed = false :=
      Bool.eq_false_iff.2 hclosed
    simp only [hif]
    exact .disconnecting hif

theorem called_startPrint (s : Spooler) :
    Called s .startPrint s.startPrint.1 s.startPrint.2 := by
  unfold startPrint
  obtain ⟨e, h⟩ | ⟨body, config, hstage, hconfig, hopen, h⟩ :=
    queues_submit s s.buffer.markup none
  · rw [h]
    exact .refused e
  · rw [h]
    exact .accepted body config .empty hstage hconfig hopen

theorem called_cancel (s : Spooler) (job : Nat) :
    Called s (.cancel job) (s.cancel job).1 (s.cancel job).2 := by
  unfold cancel
  cases hjob : s.jobs[job]? with
  | none => exact .unknown job hjob
  | some j => exact .cancelled job j hjob

theorem called_append (s : Spooler) (c : Call) : Called s c (s.append c).1 (s.append c).2 := by
  unfold append
  cases h : s.appended c with
  | error e => exact .refused e
  | ok buffer => exact .appended buffer h

/-- `Called` holds of every call. -/
theorem called (s : Spooler) (c : Call) : Called s c (s.call c).1 (s.call c).2 := by
  cases c with
  | configure options => exact called_configure s options
  | connect => exact called_connect s
  | disconnect => exact called_disconnect s
  | submit markup feed => exact (queues_submit s markup feed).called _
  | startPrint => exact called_startPrint s
  | printText markup lines => exact (queues_submit s markup _).called _
  | printFeed lines => exact (queues_submit s _ _).called _
  | printQrCode content =>
    exact (Queues.bind fun _ => queues_submit s _ _).called _
  | printBarcode content =>
    exact (Queues.bind fun _ => queues_submit s _ _).called _
  | printPicture base64 decode =>
    exact (Queues.bind fun _ => Queues.bind fun _ => queues_submit s _ _).called _
  | directPrint request decode =>
    exact (Queues.bind fun _ => Queues.bind fun _ => queues_submit s _ _).called _
  | cutPaper => exact (Queues.bind fun _ => queues_enqueue s _).called _
  | openDrawer => exact (Queues.bind fun _ => queues_enqueue s _).called _
  | cancel job => exact called_cancel s job
  | shutdown => exact .shutdown
  | appendText markup => exact called_append s _
  | appendPicture base64 decode => exact called_append s _
  | appendBarcode barcode => exact called_append s _
  | appendQrCode content size => exact called_append s _
  | appendFeed lines => exact called_append s _

end ReceiptPrinter.Spooler

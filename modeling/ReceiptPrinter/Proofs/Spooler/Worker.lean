import ReceiptPrinter.Proofs.Link.Operations
import ReceiptPrinter.Proofs.Spooler.Call

/-!
# What the worker does

`Worked` has a case for every step of the worker, and `stop_eq_some_iff` says what its end does,
with the conditions under which they occur.
-/

namespace ReceiptPrinter

namespace Spooler

variable {s s' : Spooler}

/-! ### Steps of the worker -/

/-- How the worker goes on with a job of which segments are left. -/
inductive Resumed (s : Spooler) (job : Nat) : List (List UInt8) → Spooler → Prop
  | writing (segment : List UInt8) (rest : List (List UInt8)) (flight : Flight)
    (h : s.connection.startWrite s.link = .ok flight) :
    Resumed s job (segment :: rest)
      { s with activity := .writing job segment rest (s.now + flight.wait) flight.late }
  | flushing (flight : Flight) (hdrains : s.drains job = true)
    (h : s.connection.startFlush s.link = .ok flight) :
    Resumed s job [] { s with activity := .flushing job (s.now + flight.wait) flight.late }
  | completed (hdrains : s.drains job = false) : Resumed s job [] (s.completeJob job)
  | failed (segments : List (List UInt8)) (e : ConnectionError)
    (h : (segments ≠ [] ∧ s.connection.startWrite s.link = .error e) ∨
      (segments = [] ∧ s.connection.startFlush s.link = .error e)) :
    Resumed s job segments (s.faultJob job e)

theorem resumed (s : Spooler) (job : Nat) (segments : List (List UInt8)) :
    Resumed s job segments (s.continueJob job segments) := by
  cases segments with
  | cons segment rest =>
    rw [continueJob]
    cases h : s.connection.startWrite s.link with
    | error e => exact .failed _ e (.inl ⟨by simp, h⟩)
    | ok flight => exact .writing segment rest flight h
  | nil =>
    rw [continueJob]
    by_cases hdrains : s.drains job = true
    · rw [if_pos hdrains]
      cases h : s.connection.startFlush s.link with
      | error e => exact .failed _ e (.inr ⟨rfl, h⟩)
      | ok flight => exact .flushing flight hdrains h
    · rw [if_neg hdrains]
      exact .completed (Bool.eq_false_iff.2 hdrains)

/-- A request that makes the worker close the connection: to disconnect, or a configuration for
another device. -/
def Closes (s : Spooler) : Request → Prop
  | .disconnect _ => True
  | .configure config _ =>
    ∃ target, s.connection.target = some target ∧ target.sameDevice config.target = false
  | _ => False

/-- Why a job is refused after it has started. -/
def Refuses (s : Spooler) (j : Job) (e : PrintError) : Prop :=
  (∃ fault, j.segments = .error fault ∧ e = .encoding fault) ∨
  ∃ segments, j.segments = .ok segments ∧
    (s.stage.acceptsJobs && s.connection.isConnected s.link) = false ∧ e = .notReady s.stage

def startJob (s : Spooler) (queue : List Request) (job : Nat) : Spooler :=
  { s with queue, jobs := s.jobs.modify job fun j => { j with phase := .started } }

/-- The spooler when the printing of a job taken from the queue begins. -/
def beginJob (s : Spooler) (queue : List Request) (job : Nat) : Spooler :=
  { s.startJob queue job with stage := .printing, transitions := s.entered .printing }

theorem enter_startJob_eq (s : Spooler) (queue : List Request) (job : Nat) :
    (s.startJob queue job).enter .printing = s.beginJob queue job := enter_eq _ _

/-- The spooler when a connection starts to open, over a new channel. -/
theorem startConnect_eq (s : Spooler) (config : Config) (ticket : Nat) :
    s.startConnect config ticket = { s with
      connection := { s.connection with
        channel := none, target := some config.target, state := .connecting }
      link := { s.connection.dropChannel s.link with
        targets := (s.connection.dropChannel s.link).targets ++ [config.target] }
      activity := .opening ticket { number := (s.connection.dropChannel s.link).targets.length }
        (s.now + (s.connection.dropChannel s.link).connectDelay) } := rfl

/-- What a step of the worker does. -/
inductive Worked (s : Spooler) : Spooler → Prop
  /-- The connection goes on under a new configuration. -/
  | kept (config : Config) (ticket : Nat) (queue : List Request) (hact : s.activity = .waiting)
    (hqueue : s.queue = .configure config ticket :: queue)
    (hsame : ∀ target, s.connection.target = some target →
      target.sameDevice config.target = true) :
    Worked s { s with queue, tickets := s.tickets.set ticket (some (.ok ())) }
  | closed (request : Request) (ticket : Nat) (queue : List Request)
    (hact : s.activity = .waiting) (hqueue : s.queue = request :: queue)
    (hcloses : s.Closes request) :
    Worked s { s with
      queue
      connection := (s.connection.close s.link).1
      link := (s.connection.close s.link).2
      stage := .idle
      transitions := s.entered .idle
      tickets := s.tickets.set ticket (some (.ok ())) }
  | opening (config : Config) (ticket : Nat) (queue : List Request) (hact : s.activity = .waiting)
    (hqueue : s.queue = .connect config ticket :: queue) :
    Worked s ({ s with queue }.startConnect config ticket)
  | opened (ticket : Nat) (channel : Channel) (due : Nat)
    (hact : s.activity = .opening ticket channel due) (hfault : s.link.connectFault = none) :
    Worked s { s with
      connection :=
        { s.connection with channel := some { channel with isOpen := true }, state := .connected }
      link := (s.link.finishConnect channel).2.2
      activity := .waiting
      stage := .ready
      transitions := s.entered .ready
      tickets := s.tickets.set ticket (some (.ok ())) }
  | openFailed (ticket : Nat) (channel : Channel) (due : Nat) (e : ConnectionError)
    (hact : s.activity = .opening ticket channel due) (hfault : s.link.connectFault = some e) :
    Worked s { s with
      connection := { s.connection with state := .faulted }
      link := ({ s.link with connectFault := none }.disconnect channel).2
      activity := .waiting
      stage := .faulted
      transitions := s.entered .faulted
      tickets := s.tickets.set ticket (some (.error (.connection e))) }
  | unknown (job : Nat) (queue : List Request) (hact : s.activity = .waiting)
    (hqueue : s.queue = .print job :: queue) (hjob : s.jobs[job]? = none) :
    Worked s { s with queue }
  | skipped (job : Nat) (j : Job) (queue : List Request) (hact : s.activity = .waiting)
    (hqueue : s.queue = .print job :: queue) (hjob : s.jobs[job]? = some j)
    (hphase : j.phase ≠ .queued) :
    Worked s { s with queue, jobs := outcomes s.jobs job (.error .cancelled) }
  | refused (job : Nat) (j : Job) (e : PrintError) (queue : List Request)
    (hact : s.activity = .waiting) (hqueue : s.queue = .print job :: queue)
    (hjob : s.jobs[job]? = some j) (hphase : j.phase = .queued) (hrefuses : s.Refuses j e) :
    Worked s ((s.startJob queue job).finishJob job (.error e))
  | started (job : Nat) (j : Job) (segments : List (List UInt8)) (queue : List Request)
    (s' : Spooler) (hact : s.activity = .waiting) (hqueue : s.queue = .print job :: queue)
    (hjob : s.jobs[job]? = some j) (hphase : j.phase = .queued)
    (hsegments : j.segments = .ok segments) (hstage : s.stage.acceptsJobs = true)
    (hconnected : s.connection.isConnected s.link = true)
    (h : Resumed (s.beginJob queue job) job segments s') : Worked s s'
  | wrote (job : Nat) (segment : List UInt8) (rest : List (List UInt8)) (due : Nat)
    (channel : Channel) (s' : Spooler) (hact : s.activity = .writing job segment rest due false)
    (hlive : s.connection.liveChannel = .ok channel) (hfault : s.link.writeFault = none)
    (h : Resumed { s with link := s.link.deliver channel segment } job rest s') : Worked s s'
  | writeFailed (job : Nat) (segment : List UInt8) (rest : List (List UInt8)) (due : Nat)
    (late : Bool) (e : ConnectionError)
    (hact : s.activity = .writing job segment rest due late) : Worked s (s.faultJob job e)
  | flushed (job due : Nat) (hact : s.activity = .flushing job due false) :
    Worked s { s with activity := .draining job (s.now + s.drainDelay) }
  | flushFailed (job due : Nat) (late : Bool) (e : ConnectionError)
    (hact : s.activity = .flushing job due late) : Worked s (s.faultJob job e)
  | drained (job due : Nat) (hact : s.activity = .draining job due) : Worked s (s.completeJob job)

theorem worked_configure {config : Config} {ticket : Nat} {queue : List Request}
    (hact : s.activity = .waiting) (hqueue : s.queue = .configure config ticket :: queue) :
    Worked s ({ s with queue }.handle (.configure config ticket)) := by
  have hkept : (∀ target, s.connection.target = some target →
      target.sameDevice config.target = true) →
      ({ s with queue } : Spooler).dropStale config = { s with queue } := by
    intro hsame
    refine if_neg ?_
    rw [Option.any_eq_true]
    rintro ⟨target, htarget, hother⟩
    rw [hsame target htarget] at hother
    cases hother
  cases htarget : s.connection.target with
  | none =>
    have hsame : ∀ target, s.connection.target = some target →
        target.sameDevice config.target = true := by simp [htarget]
    rw [handle, hkept hsame]
    exact .kept config ticket queue hact hqueue hsame
  | some target =>
    by_cases hdevice : target.sameDevice config.target = true
    · have hsame : ∀ target, s.connection.target = some target →
          target.sameDevice config.target = true := by
        intro target' htarget'
        rw [htarget] at htarget'
        cases htarget'
        exact hdevice
      rw [handle, hkept hsame]
      exact .kept config ticket queue hact hqueue hsame
    · have hother : target.sameDevice config.target = false := Bool.eq_false_iff.2 hdevice
      have hdropped : ({ s with queue } : Spooler).dropStale config =
          ({ s with queue } : Spooler).closeConnection.enter .idle :=
        if_pos (by rw [htarget, Option.any_some, hother]; rfl)
      rw [handle, hdropped, closeConnection_enter_eq]
      exact .closed _ ticket queue hact hqueue ⟨target, htarget, hother⟩

theorem modify_congr {α : Type} {l : List α} {i : Nat} {a : α} {f g : α → α} (h : l[i]? = some a)
    (hfg : f a = g a) : l.modify i f = l.modify i g := by
  refine List.ext_getElem? fun k => ?_
  rw [List.getElem?_modify, List.getElem?_modify]
  by_cases hk : i = k
  · subst hk
    simp only [h, if_true, Option.map_eq_map, Option.map_some, hfg]
  · simp only [if_neg hk]

theorem updateJob_start {job : Nat} {j : Job} (hjob : s.jobs[job]? = some j)
    (queue : List Request) :
    ({ s with queue } : Spooler).updateJob job (fun _ => { j with phase := .started }) =
      s.startJob queue job := by
  have hjobs : s.jobs.modify job (fun _ => { j with phase := .started }) =
      s.jobs.modify job fun j => { j with phase := .started } := modify_congr hjob rfl
  show ({ s with
    queue
    jobs := s.jobs.modify job fun _ => { j with phase := .started } } : Spooler) = _
  rw [hjobs]
  rfl

theorem worked_print {job : Nat} {queue : List Request} (hact : s.activity = .waiting)
    (hqueue : s.queue = .print job :: queue) :
    Worked s ({ s with queue }.handle (.print job)) := by
  unfold handle
  simp only
  split
  · next j hjob =>
    by_cases hphase : j.phase = .queued
    · have hstart : j.start = (true, { j with phase := .started }) := by rw [Job.start, hphase]
      have hsame : ({ j with phase := .started } : Job).segments = j.segments := rfl
      rw [runJob, hstart]
      simp only [updateJob_start hjob, hsame]
      cases hsegments : j.segments with
      | error fault =>
        exact .refused job j _ queue hact hqueue hjob hphase (.inl ⟨fault, hsegments, rfl⟩)
      | ok segments =>
        have hcondition : ((s.startJob queue job).stage.acceptsJobs &&
            (s.startJob queue job).connection.isConnected (s.startJob queue job).link) =
            (s.stage.acceptsJobs && s.connection.isConnected s.link) := rfl
        by_cases hready : (s.stage.acceptsJobs && s.connection.isConnected s.link) = true
        · obtain ⟨hstage, hconnected⟩ := Bool.and_eq_true_iff.1 hready
          simp only [hcondition, hready, if_true, enter_startJob_eq]
          exact .started job j segments queue _ hact hqueue hjob hphase hsegments hstage hconnected
            (resumed _ job segments)
        · simp only [hcondition, hready]
          exact .refused job j _ queue hact hqueue hjob hphase
            (.inr ⟨segments, hsegments, Bool.eq_false_iff.2 hready, rfl⟩)
    · have hstart : j.start = (false, j) := by
        unfold Job.start
        split
        · next h => exact absurd h hphase
        · rfl
      rw [runJob, hstart]
      exact .skipped job j queue hact hqueue hjob hphase
  · next hjob => exact .unknown job queue hact hqueue hjob

theorem worked_opening {ticket : Nat} {channel : Channel} {due : Nat}
    (hact : s.activity = .opening ticket channel due) :
    Worked s (s.finishConnect ticket channel) := by
  cases hfault : s.link.connectFault with
  | none =>
    rw [finishConnect, Connection.finishOpen_eq_ok hfault]
    simp only [enter_eq]
    exact .opened ticket channel due hact hfault
  | some e =>
    rw [finishConnect, Connection.finishOpen_eq_error hfault]
    simp only [enter_eq]
    exact .openFailed ticket channel due e hact hfault

theorem worked_writing {job : Nat} {segment : List UInt8} {rest : List (List UInt8)} {due : Nat}
    {late : Bool} (hact : s.activity = .writing job segment rest due late) :
    Worked s (s.finishWrite job segment rest late) := by
  obtain ⟨e, h⟩ | ⟨channel, rfl, hlive, hfault, h⟩ :=
    s.connection.finishWrite_cases s.link segment late
  · rw [finishWrite, h]
    exact .writeFailed job segment rest due late e hact
  · rw [finishWrite, h]
    exact .wrote job segment rest due channel _ hact hlive hfault (resumed _ job rest)

theorem worked_flushing {job due : Nat} {late : Bool} (hact : s.activity = .flushing job due late) :
    Worked s (s.finishFlush job late) := by
  obtain ⟨e, h⟩ | ⟨rfl, hfault, h⟩ := s.connection.finishFlush_cases s.link late
  · rw [finishFlush, h]
    exact .flushFailed job due late e hact
  · rw [finishFlush, h]
    exact .flushed job due hact

/-- `Worked` holds of every step of the worker. -/
theorem worked (h : s.work = some s') : Worked s s' := by
  unfold work at h
  split at h
  · cases h
  · split at h
    · next hact =>
      unfold takeRequest at h
      split at h
      · cases h
      · next request queue hqueue =>
        cases h
        cases request with
        | configure config ticket => exact worked_configure hact hqueue
        | connect config ticket => exact .opening config ticket queue hact hqueue
        | print job => exact worked_print hact hqueue
        | disconnect ticket =>
          rw [handle, closeConnection_enter_eq]
          exact .closed _ ticket queue hact hqueue trivial
    · next hact => cases h; exact worked_opening hact
    · next hact => cases h; exact worked_writing hact
    · next hact => cases h; exact worked_flushing hact
    · next hact => cases h; exact .drained _ _ hact
    · cases h

/-! ### The end of the worker -/

def abandonedJobs (queue : List Request) (jobs : List Job) : List Job :=
  queue.foldl (fun jobs request =>
    match request with
    | .print job => outcomes jobs job (.error .closed)
    | _ => jobs) jobs

/-- The tickets after all that were still queued are answered. -/
def abandonedTickets (queue : List Request) (tickets : List (Option PrintResult)) :
    List (Option PrintResult) :=
  queue.foldl (fun tickets request =>
    match request with
    | .configure _ ticket | .connect _ ticket => tickets.set ticket (some (.error .closed))
    | .disconnect ticket => tickets.set ticket (some (.ok ()))
    | .print _ => tickets) tickets

theorem foldl_abandon_eq (queue : List Request) (s : Spooler) :
    queue.foldl abandon s = { s with
      jobs := abandonedJobs queue s.jobs
      tickets := abandonedTickets queue s.tickets } := by
  induction queue generalizing s with
  | nil => rfl
  | cons request queue ih =>
    rw [List.foldl_cons, ih]
    cases request <;> rfl

/-- What the end of the worker does. -/
theorem stop_eq_some_iff : s.stop = some s' ↔
    s.shutdown = true ∧ s.activity = .waiting ∧ s' = { s with
      connection := (s.connection.close s.link).1
      link := (s.connection.close s.link).2
      stage := .idle
      transitions := s.entered .idle
      queue := []
      activity := .stopped
      jobs := abandonedJobs s.queue s.jobs
      tickets := abandonedTickets s.queue s.tickets } := by
  unfold stop
  simp only [closeConnection_enter_eq, foldl_abandon_eq, Option.ite_none_right_eq_some,
    Bool.and_eq_true, beq_iff_eq, Option.some.injEq, and_assoc, eq_comm (a := s')]

end Spooler

end ReceiptPrinter

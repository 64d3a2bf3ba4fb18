import ReceiptPrinter.Proofs.Spooler.Printing

/-!
# What a connect comes to

A call to connect looks at the stage only, the start of a job at the connection as well.
`Reconnected`: when a call to connect that is made `AtRest` succeeds, the connection is open, over
the channel that was held if the spooler was ready and over a new one otherwise; but that channel
says so itself, and the next job is not refused for it, exactly if the link has not been lost.
-/

namespace ReceiptPrinter

theorem Connection.Live.isConnected {c : Connection} (h : c.Live) (link : Link) :
    c.isConnected link = !link.lost := by
  obtain ⟨channel, hlive, hopen⟩ := h
  obtain ⟨hstate, hchannel⟩ := Connection.liveChannel_eq_ok_iff.1 hlive
  simp [Connection.isConnected, Link.isConnected, hstate, hchannel, hopen]

namespace Spooler

variable {s s' t t' : Spooler} {a : Action} {job : Nat} {j : Job} {config : Config}

/-- Whether nothing is outstanding. -/
def AtRest (s : Spooler) : Prop :=
  s.queue = [] ∧ (s.activity = .waiting ∨ s.activity = .stopped)

/-- Whether the call `c` comes to `result` by the last of the actions after it. -/
def Returns (s : Spooler) (c : Call) (after : List Action) (result : PrintResult) : Prop :=
  (s.run (.call c :: after)).result? (s.call c).1 = some result ∧
    ∀ n < after.length, (s.run (.call c :: after.take n)).result? (s.call c).1 = none

/-! ### Attempts -/

/-- Where an attempt to connect stands that is under way, of a call made in state `s`. -/
inductive Attempt (s : Spooler) (config : Config) (t : Spooler) : Prop
  | queued (hactivity : t.activity = .waiting)
    (hqueue : t.queue = [.connect config s.tickets.length])
    (hticket : t.tickets[s.tickets.length]? = some none)
    (htargets : t.link.targets = s.link.targets)
  | opening (due : Nat)
    (hactivity : t.activity = .opening s.tickets.length { number := s.link.targets.length } due)
    (hqueue : t.queue = []) (hticket : t.tickets[s.tickets.length]? = some none)
    (htargets : t.link.targets = s.link.targets ++ [config.target])

/-- Whether an attempt to connect, of a call made in state `s`, has come to an open connection over
a new channel. -/
structure Opened (s : Spooler) (config : Config) (t : Spooler) : Prop where
  stage : t.stage = .ready
  activity : t.activity = .waiting
  queue : t.queue = []
  state : t.connection.state = .connected
  channel : t.connection.channel = some { number := s.link.targets.length, isOpen := true }
  targets : t.link.targets = s.link.targets ++ [config.target]
  ticket : t.tickets[s.tickets.length]? = some (some (.ok ()))

/-- What has become of an attempt to connect. -/
inductive Attempted (s : Spooler) (config : Config) (t : Spooler) : Prop
  | pending (h : s.Attempt config t)
  | opened (h : s.Opened config t)
  | failed (e : PrintError) (hticket : t.tickets[s.tickets.length]? = some (some (.error e)))

theorem getElem?_set_answer {tickets : List (Option PrintResult)} {ticket : Nat}
    (h : tickets[ticket]? = some none) (r : PrintResult) :
    (tickets.set ticket (some r))[ticket]? = some (some r) :=
  List.getElem?_set_self (List.getElem?_eq_some_iff.1 h).1

theorem Attempt.of_eq (h : s.Attempt config t) (hactivity : t'.activity = t.activity)
    (hqueue : t'.queue = t.queue) (htickets : t'.tickets = t.tickets)
    (htargets : t'.link.targets = t.link.targets) : s.Attempt config t' := by
  cases h with
  | queued hwaiting hconnect hticket hold =>
    exact .queued (hactivity.trans hwaiting) (hqueue.trans hconnect) (htickets ▸ hticket)
      (htargets.trans hold)
  | opening due hopening hempty hticket hold =>
    exact .opening due (hactivity.trans hopening) (hqueue.trans hempty) (htickets ▸ hticket)
      (htargets.trans hold)

theorem Attempt.act_work (h : s.Attempt config t) : s.Attempted config (t.act .work) := by
  cases h with
  | queued hactivity hqueue hticket htargets =>
    have hdue : t.due? = none := by rw [due?, hactivity]
    have hact : t.act .work =
        ({ t with queue := [] } : Spooler).startConnect config s.tickets.length := by
      rw [act, work, hdue, hactivity, takeRequest, hqueue]
      rfl
    rw [hact, startConnect_eq]
    simp only [Connection.dropChannel_targets, htargets]
    exact .pending (.opening _ rfl rfl hticket rfl)
  | opening due hactivity hqueue hticket htargets =>
    cases hdue : t.due?.any (t.now < ·) with
    | true =>
      rw [act_work_of_none (work_eq_none_of_due hdue)]
      exact .pending (.opening due hactivity hqueue hticket htargets)
    | false =>
      have hact : t.act .work =
          t.finishConnect s.tickets.length { number := s.link.targets.length } := by
        rw [act, work, hdue, hactivity]
        rfl
      rw [hact]
      cases hfault : t.link.connectFault with
      | some e =>
        rw [finishConnect, Connection.finishOpen_eq_error hfault]
        simp only [enter_eq]
        exact .failed (.connection e) (getElem?_set_answer hticket _)
      | none =>
        rw [finishConnect, Connection.finishOpen_eq_ok hfault]
        simp only [enter_eq]
        refine .opened ⟨rfl, rfl, hqueue, rfl, rfl, ?_, getElem?_set_answer hticket _⟩
        exact (Link.finishConnect_targets _ _).trans htargets

theorem Attempt.act (h : s.Attempt config t) (ha : ∀ c, a ≠ .call c) :
    s.Attempted config (t.act a) := by
  cases a with
  | call c => exact absurd rfl (ha c)
  | work => exact h.act_work
  | stop =>
    cases hstop : t.stop with
    | none =>
      rw [act_stop_of_none hstop]
      exact .pending h
    | some t' =>
      rw [act_stop_of_some hstop]
      obtain ⟨-, hwaiting, rfl⟩ := stop_eq_some_iff.1 hstop
      cases h with
      | queued hactivity hqueue hticket htargets =>
        refine .failed .closed ?_
        rw [hqueue]
        exact getElem?_set_answer hticket _
      | opening due hactivity =>
        rw [hwaiting] at hactivity
        cases hactivity
  | change c => exact .pending (h.of_eq rfl rfl rfl (Link.change_targets _ _))
  | advance ms => exact .pending (h.of_eq rfl rfl rfl rfl)

theorem Attempt.ticket (h : s.Attempt config t) : t.tickets[s.tickets.length]? = some none := by
  cases h with
  | queued _ _ hticket => exact hticket
  | opening _ _ _ hticket => exact hticket

theorem Attempted.attempt (h : s.Attempted config t)
    (hnone : t.result? (.ticket s.tickets.length) = none) : s.Attempt config t := by
  rw [result?_ticket] at hnone
  cases h with
  | pending h => exact h
  | opened h =>
    rw [h.ticket] at hnone
    cases hnone
  | failed e hticket =>
    rw [hticket] at hnone
    cases hnone

theorem Attempted.opened_of_ok (h : s.Attempted config t)
    (hok : t.result? (.ticket s.tickets.length) = some (.ok ())) : s.Opened config t := by
  rw [result?_ticket] at hok
  cases h with
  | pending h =>
    rw [h.ticket] at hok
    cases hok
  | opened h => exact h
  | failed e hticket =>
    rw [hticket] at hok
    cases hok

/-- An attempt goes on until its ticket is answered. -/
theorem attempted_run (h : s.Attempt config t) {actions : List Action}
    (hcalls : ∀ a ∈ actions, ∀ c, a ≠ .call c)
    (hnone : ∀ n < actions.length,
      (t.run (actions.take n)).result? (.ticket s.tickets.length) = none) :
    s.Attempted config (t.run actions) := by
  induction actions generalizing t with
  | nil => exact .pending h
  | cons a actions ih =>
    have hnext := h.act (hcalls a List.mem_cons_self)
    cases actions with
    | nil => exact hnext
    | cons b actions =>
      -- more actions follow, so the ticket is not answered yet
      refine ih (hnext.attempt (hnone 1 (by simp))) ?_ fun n hn => ?_
      · exact fun a ha => hcalls a (List.mem_cons_of_mem _ ha)
      · exact hnone (n + 1) (by simpa using hn)

/-! ### Open connections -/

/-- Whether the connection holds a channel when it is open. -/
def Held (s : Spooler) : Prop :=
  s.connection.state = .connected → ∃ channel, s.connection.channel = some channel

theorem Held.of_eq (h : s.Held) (hconnection : s'.connection = s.connection) : s'.Held := by
  rw [Held, hconnection]
  exact h

theorem Held.of_state (h : s.connection.state ≠ .connected) : s.Held := fun hstate =>
  absurd hstate h

theorem held_faultJob (s : Spooler) (job : Nat) (e : ConnectionError) :
    (s.faultJob job e).Held := by
  rw [faultJob_eq]
  exact .of_state (by simp [Connection.fault])

theorem Held.resumed (h : s.Held) {segments : List (List UInt8)} (hr : Resumed s job segments s') :
    s'.Held := by
  cases hr with
  | completed => exact h.of_eq (by rw [completeJob_eq])
  | failed segments e => exact held_faultJob s job e
  | _ => exact h.of_eq rfl

theorem Held.worked (h : s.Held) (hw : Worked s s') : s'.Held := by
  cases hw with
  | closed => exact .of_state (by simp [Connection.close])
  | opening => exact .of_state (by simp [startConnect_eq])
  | opened => exact fun _ => ⟨_, rfl⟩
  | openFailed => exact .of_state (by simp)
  | started i ji segments queue _ hact hqueue hi hphase hsegments hstage hconnected hr =>
    have hbegun : (s.beginJob queue i).Held := h.of_eq rfl
    exact hbegun.resumed hr
  | wrote i segment rest due channel _ hact hlive hfault hr =>
    have hdelivered : Held { s with link := s.link.deliver channel segment } := h.of_eq rfl
    exact hdelivered.resumed hr
  | writeFailed => exact held_faultJob s _ _
  | flushFailed => exact held_faultJob s _ _
  | drained => exact h.of_eq (by rw [completeJob_eq])
  | _ => exact h.of_eq rfl

theorem Held.happened (h : s.Held) (ha : Happened s a s') : s'.Held := by
  cases ha with
  | call c answer _ hc =>
    cases hc with
    | connectClosed => exact h.of_eq (by rw [enter_eq, enter_eq])
    | _ => exact h.of_eq rfl
  | work _ hw => exact h.worked hw
  | stop => exact .of_state (by simp [Connection.close])
  | _ => exact h.of_eq rfl

theorem held_run (writeDeadline drainDelay : Nat) (actions : List Action) :
    ((start writeDeadline drainDelay).run actions).Held :=
  run_induction (.of_state (by simp [start])) (fun _ _ _ h ha => h.happened ha) actions

/-! ### The next job -/

/-- A job that is taken in the stage `ready` is refused for the stage exactly if it can be encoded
and the connection is not open. -/
theorem refused_iff (hnext : s.nextJob? = some job) (hjob : s.jobs[job]? = some j)
    (hphase : j.phase = .queued) (hnone : j.outcome = none) (hready : s.stage = .ready) :
    ∃ j', (s.act .work).jobs[job]? = some j' ∧ (j'.outcome = some (.error (.notReady .ready)) ↔
      s.connection.isConnected s.link = false ∧ ∃ segments, j.segments = .ok segments) := by
  obtain ⟨j', hj', hmoved⟩ := moved .work hjob
  refine ⟨j', hj', ?_⟩
  cases hmoved with
  | kept _ hother => exact absurd hnext (hother rfl)
  | cancelled ha => cases ha
  | abandoned ha => cases ha
  | skipped _ _ hnot => exact absurd hphase hnot
  | refused e _ _ _ hrefuses =>
    obtain ⟨fault, hfault, rfl⟩ | ⟨segments, hsegments, hnot, rfl⟩ := hrefuses
    · simp [hfault]
    · rw [hready] at hnot ⊢
      simpa [Stage.acceptsJobs, hsegments] using hnot
  | started _ _ _ hconnected => simp [hnone, hconnected]
  | rushed r _ _ _ hconnected hr =>
    obtain rfl | ⟨e, rfl⟩ := hr <;> simp [hconnected]
  | ended r _ hactive =>
    rw [(nextJob?_eq_some hnext).1] at hactive
    cases hactive

/-- `refused_iff` for the job that a call queues at rest. -/
theorem refused_iff_of_call (hactivity : s.activity = .waiting) (hqueue : s.queue = [])
    (hready : s.stage = .ready) {c : Call} (hanswer : (s.call c).1 = .job job) :
    ∃ j j', (s.call c).2.jobs[job]? = some j ∧ ((s.call c).2.act .work).jobs[job]? = some j' ∧
      (j'.outcome = some (.error (.notReady .ready)) ↔
        s.connection.isConnected s.link = false ∧ ∃ segments, j.segments = .ok segments) := by
  have hcalled := called s c
  rw [hanswer] at hcalled
  generalize (s.call c).2 = s' at hcalled
  cases hcalled with
  | accepted body config buffer =>
    have hjob : (s.jobs ++ [({ body, config } : Job)])[s.jobs.length]? =
        some ({ body, config } : Job) := List.getElem?_concat_length
    have hnext : nextJob? { s with
        buffer
        queue := s.queue ++ [.print s.jobs.length]
        jobs := s.jobs ++ [{ body, config }] } = some s.jobs.length := by
      simp [nextJob?, hactivity, hqueue, Request.job?]
    obtain ⟨j', hj', hiff⟩ := refused_iff hnext hjob rfl rfl hready
    exact ⟨{ body, config }, j', hjob, hj', hiff⟩

/-! ### Connects -/

/-- What a call to connect that is made at rest, in state `s`, has come to when it succeeds. -/
structure Reconnected (s : Spooler) (after : List Action) (t : Spooler) : Prop where
  stage : t.stage = .ready
  activity : t.activity = .waiting
  queue : t.queue = []
  live : t.connection.Live
  /-- In the ready stage the call changes nothing, whatever has become of the channel. -/
  kept : s.stage = .ready → after = [] ∧ t = s
  fresh : s.stage ≠ .ready → ∃ config, s.config = some config ∧ s.Opened config t
  isConnected_iff : t.connection.isConnected t.link = true ↔ t.link.lost = false
  refused_iff : ∀ c job, (t.call c).1 = .job job → ∃ j j', (t.call c).2.jobs[job]? = some j ∧
    ((t.call c).2.act .work).jobs[job]? = some j' ∧
    (j'.outcome = some (.error (.notReady .ready)) ↔
      t.link.lost = true ∧ ∃ segments, j.segments = .ok segments)

/-- A call to connect fails at once, succeeds at once without a look at the connection, or queues a
request. -/
theorem connect_cases (s : Spooler) :
    (∃ e, s.connect.1 = .done (.error e)) ∨
    ((s.stage = .ready ∨ s.stage = .printing) ∧ s.connect = (.done (.ok ()), s)) ∨
    ∃ config, s.config = some config ∧ (s.stage = .idle ∨ s.stage = .faulted) ∧
      s.isClosed = false ∧
      s.connect = (s.enter .connecting).pushTicket (.connect config) := by
  unfold connect
  cases hconfig : s.requireConfig with
  | error e => exact .inl ⟨e, rfl⟩
  | ok config =>
    have hsame : (s.enter .connecting).isClosed = s.isClosed := by rw [enter_eq]; rfl
    have hconfig := requireConfig_eq_ok_iff.1 hconfig
    cases hclosed : s.isClosed with
    | true =>
      cases s.stage with
      | connecting => exact .inl ⟨_, rfl⟩
      | ready => exact .inr (.inl ⟨.inl rfl, rfl⟩)
      | printing => exact .inr (.inl ⟨.inr rfl, rfl⟩)
      | idle => exact .inl ⟨.closed, by simp only [hsame, hclosed, if_true]⟩
      | faulted => exact .inl ⟨.closed, by simp only [hsame, hclosed, if_true]⟩
    | false =>
      cases s.stage with
      | connecting => exact .inl ⟨_, rfl⟩
      | ready => exact .inr (.inl ⟨.inl rfl, rfl⟩)
      | printing => exact .inr (.inl ⟨.inr rfl, rfl⟩)
      | idle =>
        refine .inr (.inr ⟨config, hconfig, .inl rfl, rfl, ?_⟩)
        simp only [hsame, hclosed]
        rfl
      | faulted =>
        refine .inr (.inr ⟨config, hconfig, .inr rfl, rfl, ?_⟩)
        simp only [hsame, hclosed]
        rfl

theorem Opened.live (h : s.Opened config t) : t.connection.Live :=
  ⟨_, Connection.liveChannel_eq_ok_iff.2 ⟨h.state, h.channel⟩, rfl⟩

theorem attempt_of_call (hactivity : s.activity = .waiting) (hqueue : s.queue = []) :
    s.Attempt config ((s.enter .connecting).pushTicket (.connect config)).2 := by
  rw [enter_eq]
  refine .queued hactivity ?_ List.getElem?_concat_length rfl
  show s.queue ++ [Request.connect config s.tickets.length] = _
  rw [hqueue]
  rfl

theorem reconnected_of_ready {after : List Action} (hstage : t.stage = .ready)
    (hactivity : t.activity = .waiting) (hqueue : t.queue = []) (hlive : t.connection.Live)
    (hkept : s.stage = .ready → after = [] ∧ t = s)
    (hfresh : s.stage ≠ .ready → ∃ config, s.config = some config ∧ s.Opened config t) :
    s.Reconnected after t where
  stage := hstage
  activity := hactivity
  queue := hqueue
  live := hlive
  kept := hkept
  fresh := hfresh
  isConnected_iff := by simp [hlive.isConnected]
  refused_iff := by
    intro c job hanswer
    obtain ⟨j, j', hj, hj', hiff⟩ := refused_iff_of_call hactivity hqueue hstage hanswer
    refine ⟨j, j', hj, hj', ?_⟩
    rw [hiff, hlive.isConnected, Bool.not_eq_false']

/-- A call to connect that succeeds at once was made in the stage `ready`. -/
theorem reconnected_at_once (hcoherent : s.Coherent) (hagrees : s.activity = .waiting → s.Agrees)
    (hhalted : s.Halted) (hheld : s.Held) {after : List Action} (hrest : s.AtRest)
    (hstage : s.stage = .ready ∨ s.stage = .printing) (hconnect : s.connect = (.done (.ok ()), s))
    (hreturns : s.Returns .connect after (.ok ())) :
    s.Reconnected after (s.run (.call .connect :: after)) := by
  obtain ⟨hqueue, hactivity⟩ := hrest
  have hwaiting : s.activity = .waiting := by
    refine hactivity.resolve_right fun hstopped => ?_
    rcases hhalted.stage hstopped with h | h <;> simp [h] at hstage
  have hready := hstage.resolve_right (hagrees hwaiting).not_printing
  have hafter : after = [] := by
    refine List.eq_nil_iff_length_eq_zero.2 (Nat.eq_zero_of_not_pos fun hpos => ?_)
    have hfirst := hreturns.2 0 hpos
    rw [call, hconnect, result?_done] at hfirst
    cases hfirst
  -- the call has changed nothing
  have hstay : s.run (.call .connect :: after) = s := by
    rw [hafter]
    exact congrArg Prod.snd hconnect
  have hstate := (hagrees hwaiting).ready_iff.1 hready
  rw [hstay]
  exact reconnected_of_ready hready hwaiting hqueue (hcoherent.live ⟨hstate, hheld hstate⟩)
    (fun _ => ⟨hafter, rfl⟩) fun h => absurd hready h

/-- A call to connect that waits for its ticket comes to a new channel. -/
theorem reconnected_by_attempt {after : List Action} (hrest : s.AtRest)
    (hconfig : s.config = some config) (hstage : s.stage = .idle ∨ s.stage = .faulted)
    (hopen : s.isClosed = false)
    (hconnect : s.connect = (s.enter .connecting).pushTicket (.connect config))
    (hcalls : ∀ a ∈ after, ∀ c, a ≠ .call c) (hreturns : s.Returns .connect after (.ok ())) :
    s.Reconnected after (s.run (.call .connect :: after)) := by
  obtain ⟨hqueue, hactivity⟩ := hrest
  obtain ⟨hok, hnone⟩ := hreturns
  have hwaiting := hactivity.resolve_right (not_stopped_of_open hopen)
  have hticket : (s.call .connect).1 = .ticket s.tickets.length := by
    rw [call, hconnect, enter_eq]
    rfl
  have hrun : ∀ actions, s.run (.call .connect :: actions) =
      ((s.enter .connecting).pushTicket (.connect config)).2.run actions :=
    fun actions => congrArg (run · actions) (congrArg Prod.snd hconnect)
  rw [hticket, hrun] at hok
  have hattempted := attempted_run (attempt_of_call hwaiting hqueue) hcalls fun n hn => by
    have hpending := hnone n hn
    rwa [hticket, hrun] at hpending
  have hopened := hattempted.opened_of_ok hok
  rw [hrun]
  refine reconnected_of_ready hopened.stage hopened.activity hopened.queue hopened.live ?_ ?_
  · intro hready
    rw [hready] at hstage
    rcases hstage with h | h <;> cases h
  · exact fun _ => ⟨config, hconfig, hopened⟩

variable {writeDeadline drainDelay : Nat}

/-- A call to connect at rest that succeeds leaves the connection open, but looks neither at the
channel held in the stage `ready` nor at the link: the channel says that it is open, and the next
job is not refused, exactly if the link has not been lost. -/
theorem reconnected_of_returns (actions after : List Action)
    (hrest : ((start writeDeadline drainDelay).run actions).AtRest)
    (hcalls : ∀ a ∈ after, ∀ c, a ≠ .call c)
    (hreturns : ((start writeDeadline drainDelay).run actions).Returns .connect after (.ok ())) :
    ((start writeDeadline drainDelay).run actions).Reconnected after
      (((start writeDeadline drainDelay).run actions).run (.call .connect :: after)) := by
  obtain ⟨e, herror⟩ | ⟨hstage, hconnect⟩ | ⟨config, hconfig, hstage, hopen, hconnect⟩ :=
    connect_cases ((start writeDeadline drainDelay).run actions)
  · have hok := hreturns.1
    rw [call, herror, result?_done] at hok
    cases hok
  · exact reconnected_at_once (coherent_run writeDeadline drainDelay actions)
      (agrees_of_waiting writeDeadline drainDelay actions)
      (halted_run writeDeadline drainDelay actions) (held_run writeDeadline drainDelay actions)
      hrest hstage hconnect hreturns
  · exact reconnected_by_attempt hrest hconfig hstage hopen hconnect hcalls hreturns

/-- A connect from the stage `idle` succeeds over a new channel. -/
theorem reconnected_from_idle :
    ((start 1000 100).run [.call (.configure { host := some "a".toList }), .work]).AtRest ∧
    ((start 1000 100).run [.call (.configure { host := some "a".toList }), .work]).Returns .connect
      [.work, .work] (.ok ()) ∧
    ((start 1000 100).run [.call (.configure { host := some "a".toList }), .work]).Reconnected
      [.work, .work] (((start 1000 100).run
        [.call (.configure { host := some "a".toList }), .work]).run
          (.call .connect :: [.work, .work])) := by
  have hrest : ((start 1000 100).run
      [.call (.configure { host := some "a".toList }), .work]).AtRest := ⟨rfl, .inl rfl⟩
  have hreturns : ((start 1000 100).run
      [.call (.configure { host := some "a".toList }), .work]).Returns .connect
        [.work, .work] (.ok ()) := by
    refine ⟨rfl, fun n hn => ?_⟩
    match n, hn with
    | 0, _ => rfl
    | 1, _ => rfl
  exact ⟨hrest, hreturns, reconnected_of_returns _ [.work, .work] hrest (by simp) hreturns⟩

/-- A spooler whose link is lost while it is ready. -/
def lostWhileReady : Spooler :=
  (start 1000 100).run (untilReady ++ [.change (.lose true)])

/-- When the link is lost in the stage `ready`, a call to connect succeeds at once and leaves the
connection as it is, and the next job is refused. -/
theorem connect_after_loss :
    lostWhileReady.AtRest ∧
    lostWhileReady.call .connect = (.done (.ok ()), lostWhileReady) ∧
    lostWhileReady.connection.isConnected lostWhileReady.link = false ∧
    (lostWhileReady.call .cutPaper).1 = .job 0 ∧
    ((lostWhileReady.run [.call .cutPaper, .work]).jobs[0]?).bind Job.outcome =
      some (.error (.notReady .ready)) :=
  ⟨⟨rfl, .inl rfl⟩, rfl, rfl, rfl, rfl⟩

end Spooler

end ReceiptPrinter

import ReceiptPrinter.Proofs.Link.Channels
import ReceiptPrinter.Proofs.Spooler.Printing
import ReceiptPrinter.Proofs.Spooler.Refusal

/-!
# The end of the worker

A worker that stops closes its connection and gives up what is queued. In every run the connection
of a worker that has stopped holds no channel and no handle is open (`Disconnected`); a request to
connect that the worker did not take is answered as closed; and nothing arrives any more, whatever
is called.
-/

namespace ReceiptPrinter

def Request.ticket? : Request → Option Nat
  | .configure _ ticket | .connect _ ticket | .disconnect ticket => some ticket
  | .print _ => none

namespace Spooler

variable {s s' : Spooler} {a : Action}

/-! ### Requests in the queue -/

theorem Resumed.queue_eq {job : Nat} {segments : List (List UInt8)}
    (h : Resumed s job segments s') : s'.queue = s.queue := by
  cases h with
  | completed => rw [completeJob_eq]
  | failed => rw [faultJob_eq]
  | _ => rfl

/-- A step of the worker leaves the queue as it is, or takes its first request. -/
theorem Worked.queue_cases (h : Worked s s') :
    s'.queue = s.queue ∨ s.activity = .waiting ∧ ∃ request, s.queue = request :: s'.queue := by
  cases h with
  | kept config ticket queue hact hqueue => exact .inr ⟨hact, _, hqueue⟩
  | closed request ticket queue hact hqueue => exact .inr ⟨hact, _, hqueue⟩
  | opening config ticket queue hact hqueue =>
    rw [startConnect_eq]
    exact .inr ⟨hact, _, hqueue⟩
  | unknown job queue hact hqueue => exact .inr ⟨hact, _, hqueue⟩
  | skipped job j queue hact hqueue => exact .inr ⟨hact, _, hqueue⟩
  | refused job j e queue hact hqueue => exact .inr ⟨hact, _, hqueue⟩
  | started job j segments queue _ hact hqueue hjob hphase hsegments hstage hconnected hr =>
    exact .inr ⟨hact, .print job, by rw [hqueue, hr.queue_eq]; rfl⟩
  | wrote job segment rest due channel _ hact hlive hfault hr => exact .inl hr.queue_eq
  | writeFailed => exact .inl (by rw [faultJob_eq])
  | flushFailed => exact .inl (by rw [faultJob_eq])
  | drained => exact .inl (by rw [completeJob_eq])
  | _ => exact .inl rfl

theorem Worked.length_tickets (h : Worked s s') : s'.tickets.length = s.tickets.length := by
  cases h with
  | kept => exact List.length_set
  | closed => exact List.length_set
  | opened => exact List.length_set
  | openFailed => exact List.length_set
  | opening => rw [startConnect_eq]
  | refused => rw [finishJob_eq]; rfl
  | started job j segments queue _ hact hqueue hjob hphase hsegments hstage hconnected hr =>
    exact congrArg List.length hr.tickets
  | wrote job segment rest due channel _ hact hlive hfault hr =>
    exact congrArg List.length hr.tickets
  | writeFailed => rw [faultJob_eq]
  | flushFailed => rw [faultJob_eq]
  | drained => rw [completeJob_eq]
  | _ => rfl

/-- Whether the requests in the queue have tickets of their own, which were handed out. -/
structure Numbered (s : Spooler) : Prop where
  distinct : (s.queue.filterMap Request.ticket?).Nodup
  given : ∀ ticket ∈ s.queue.filterMap Request.ticket?, ticket < s.tickets.length

theorem Numbered.of_eq (h : s.Numbered) (hqueue : s'.queue = s.queue)
    (htickets : s'.tickets = s.tickets) : s'.Numbered := by
  refine ⟨hqueue ▸ h.distinct, ?_⟩
  rw [hqueue, htickets]
  exact h.given

theorem Numbered.push (h : s.Numbered) {request : Request}
    (hticket : request.ticket? = some s.tickets.length) (hqueue : s'.queue = s.queue ++ [request])
    (htickets : s'.tickets = s.tickets ++ [none]) : s'.Numbered := by
  have hlist : s'.queue.filterMap Request.ticket? =
      s.queue.filterMap Request.ticket? ++ [s.tickets.length] := by
    rw [hqueue, List.filterMap_append, List.filterMap_cons_some hticket, List.filterMap_nil]
  refine ⟨?_, ?_⟩
  · rw [hlist]
    refine List.Nodup.append h.distinct (List.nodup_singleton _) ?_
    rw [List.disjoint_singleton]
    exact fun hmem => Nat.lt_irrefl _ (h.given _ hmem)
  · rw [hlist, htickets]
    intro ticket hmem
    rw [List.length_append, List.length_singleton]
    obtain hold | hnew := List.mem_append.1 hmem
    · exact Nat.lt_succ_of_lt (h.given ticket hold)
    · rw [List.mem_singleton.1 hnew]
      exact Nat.lt_succ_self _

theorem Numbered.called (h : s.Numbered) {c : Call} {answer : Answer} (hc : Called s c answer s') :
    s'.Numbered := by
  cases hc with
  | configured => exact h.push rfl rfl rfl
  | connecting => exact h.push rfl rfl rfl
  | disconnecting => exact h.push rfl rfl rfl
  | connectClosed =>
    rw [enter_eq, enter_eq]
    exact h.of_eq rfl rfl
  | accepted =>
    have hlist : (s.queue ++ [Request.print s.jobs.length]).filterMap Request.ticket? =
        s.queue.filterMap Request.ticket? := by simp [Request.ticket?]
    exact ⟨hlist ▸ h.distinct, fun ticket hmem => h.given ticket (hlist ▸ hmem)⟩
  | _ => exact h.of_eq rfl rfl

theorem Numbered.happened (h : s.Numbered) (ha : Happened s a s') : s'.Numbered := by
  cases ha with
  | call c answer _ hc => exact h.called hc
  | work _ hw =>
    have hsub : (s'.queue.filterMap Request.ticket?).Sublist
        (s.queue.filterMap Request.ticket?) := by
      obtain heq | ⟨-, request, hqueue⟩ := hw.queue_cases
      · rw [heq]
      · rw [hqueue]
        exact (List.sublist_cons_self _ _).filterMap _
    exact ⟨hsub.nodup h.distinct, fun ticket hmem =>
      hw.length_tickets ▸ h.given ticket (hsub.subset hmem)⟩
  | stop => exact ⟨List.nodup_nil, by simp⟩
  | _ => exact h.of_eq rfl rfl

theorem numbered_run (writeDeadline drainDelay : Nat) (actions : List Action) :
    ((start writeDeadline drainDelay).run actions).Numbered :=
  run_induction ⟨List.nodup_nil, by simp [start]⟩ (fun _ _ _ h ha => h.happened ha) actions

/-! ### Requests that are given up -/

theorem getElem?_abandonedTickets_of_not_mem {queue : List Request} {ticket : Nat}
    (h : ticket ∉ queue.filterMap Request.ticket?) (tickets : List (Option PrintResult)) :
    (abandonedTickets queue tickets)[ticket]? = tickets[ticket]? := by
  induction queue generalizing tickets with
  | nil => rfl
  | cons request queue ih =>
    have hstep : abandonedTickets (request :: queue) tickets = abandonedTickets queue
        (abandonedTickets [request] tickets) := rfl
    have hrest : ticket ∉ queue.filterMap Request.ticket? := by
      intro hmem
      exact h ((List.sublist_cons_self _ _).filterMap _ |>.subset hmem)
    rw [hstep, ih hrest]
    cases request with
    | print => rfl
    | _ => exact List.getElem?_set_ne (by rintro rfl; simp [Request.ticket?] at h)

theorem length_abandonedTickets (queue : List Request) (tickets : List (Option PrintResult)) :
    (abandonedTickets queue tickets).length = tickets.length := by
  induction queue generalizing tickets with
  | nil => rfl
  | cons request queue ih =>
    refine (ih _).trans ?_
    cases request with
    | print => rfl
    | _ => exact List.length_set

/-- A request to connect that is given up is answered as `closed`. -/
theorem getElem?_abandonedTickets {queue : List Request} {config : Config} {ticket : Nat}
    (hmem : .connect config ticket ∈ queue) (hdistinct : (queue.filterMap Request.ticket?).Nodup)
    {tickets : List (Option PrintResult)} (hgiven : ticket < tickets.length) :
    (abandonedTickets queue tickets)[ticket]? = some (some (.error .closed)) := by
  obtain ⟨before, after, rfl⟩ := List.append_of_mem hmem
  have hafter : ticket ∉ after.filterMap Request.ticket? := by
    rw [List.filterMap_append] at hdistinct
    exact (List.nodup_cons.1 (List.nodup_append.1 hdistinct).2.1).1
  have hstep : abandonedTickets (before ++ .connect config ticket :: after) tickets =
      abandonedTickets after ((abandonedTickets before tickets).set ticket
        (some (.error .closed))) := List.foldl_append
  rw [hstep, getElem?_abandonedTickets_of_not_mem hafter,
    List.getElem?_set_self (by rw [length_abandonedTickets]; exact hgiven)]

theorem Called.queue_isPrefix {c : Call} {answer : Answer} (h : Called s c answer s') :
    s.queue <+: s'.queue := by
  cases h with
  | configured => exact List.prefix_append _ _
  | connecting => exact List.prefix_append _ _
  | disconnecting => exact List.prefix_append _ _
  | accepted => exact List.prefix_append _ _
  | connectClosed => rw [enter_eq, enter_eq]
  | _ => exact List.prefix_rfl

/-- A request to connect stays in the queue until the worker takes it, or stops and answers it as
`closed`. -/
theorem connect_act (hn : s.Numbered) {config : Config} {ticket : Nat}
    (hmem : .connect config ticket ∈ s.queue) (a : Action) :
    .connect config ticket ∈ (s.act a).queue ∨
    (a = .work ∧ s.activity = .waiting ∧ ∃ queue, s.queue = .connect config ticket :: queue) ∨
    ((s.act a).activity = .stopped ∧
      (s.act a).tickets[ticket]? = some (some (.error .closed))) := by
  have h := happened s a
  generalize s.act a = s' at h
  cases h with
  | call c answer _ hc => exact .inl (hc.queue_isPrefix.subset hmem)
  | work _ hw =>
    obtain heq | ⟨hact, request, hqueue⟩ := hw.queue_cases
    · exact .inl (heq ▸ hmem)
    · rw [hqueue] at hmem
      obtain rfl | hrest := List.mem_cons.1 hmem
      · exact .inr (.inl ⟨rfl, hact, _, hqueue⟩)
      · exact .inl hrest
  | stop =>
    have hgiven : ticket < s.tickets.length :=
      hn.given ticket (List.mem_filterMap.2 ⟨_, hmem, rfl⟩)
    exact .inr (.inr ⟨rfl, getElem?_abandonedTickets hmem hn.distinct hgiven⟩)
  | _ => exact .inl hmem

/-! ### The connection of a worker -/

/-- Whether the handles of a spooler are accounted for. -/
structure Tidy (s : Spooler) : Prop where
  balanced : Balanced s.connection s.link
  opening : ∀ ticket channel due, s.activity = .opening ticket channel due →
    s.connection.channel = none ∧ channel.isOpen = false

theorem Tidy.of_balanced (h : Balanced s.connection s.link)
    (hact : ∀ ticket channel due, s.activity ≠ .opening ticket channel due) : s.Tidy :=
  ⟨h, fun ticket channel due heq => absurd heq (hact ticket channel due)⟩

theorem tidy_faultJob (h : Balanced s.connection s.link) (job : Nat) (e : ConnectionError) :
    (s.faultJob job e).Tidy := by
  rw [faultJob_eq]
  exact .of_balanced h.fault (by simp)

theorem tidy_completeJob (h : Balanced s.connection s.link) (job : Nat) :
    (s.completeJob job).Tidy := by
  rw [completeJob_eq]
  exact .of_balanced h (by simp)

theorem tidy_of_resumed {job : Nat} {segments : List (List UInt8)}
    (hr : Resumed s job segments s') (h : Balanced s.connection s.link) : s'.Tidy := by
  cases hr with
  | writing => exact .of_balanced h (by simp)
  | flushing => exact .of_balanced h (by simp)
  | completed => exact tidy_completeJob h job
  | failed => exact tidy_faultJob h job _

theorem Tidy.called (h : s.Tidy) {c : Call} {answer : Answer} (hc : Called s c answer s') :
    s'.Tidy := by
  cases hc with
  | connectClosed =>
    rw [enter_eq, enter_eq]
    exact ⟨h.balanced, h.opening⟩
  | _ => exact ⟨h.balanced, h.opening⟩

theorem Tidy.worked (h : s.Tidy) (hw : Worked s s') : s'.Tidy := by
  cases hw with
  | closed request ticket queue hact => exact .of_balanced h.balanced.close (by simp [hact])
  | opening config ticket queue hact hqueue =>
    rw [startConnect_eq]
    refine ⟨h.balanced.startOpen config.target, fun t channel due heq => ?_⟩
    cases heq
    exact ⟨rfl, rfl⟩
  | opened ticket channel due hact hfault =>
    obtain ⟨hnone, hclosed⟩ := h.opening ticket channel due hact
    have hbalanced := h.balanced.finishOpen hnone hclosed
    rw [Connection.finishOpen_eq_ok hfault] at hbalanced
    exact .of_balanced hbalanced (by simp)
  | openFailed ticket channel due e hact hfault =>
    obtain ⟨hnone, hclosed⟩ := h.opening ticket channel due hact
    have hbalanced := h.balanced.finishOpen hnone hclosed
    rw [Connection.finishOpen_eq_error hfault] at hbalanced
    exact .of_balanced hbalanced (by simp)
  | started job j segments queue _ hact hqueue hjob hphase hsegments hstage hconnected hr =>
    exact tidy_of_resumed hr h.balanced
  | wrote job segment rest due channel _ hact hlive hfault hr =>
    exact tidy_of_resumed hr (h.balanced.congr rfl rfl rfl)
  | writeFailed => exact tidy_faultJob h.balanced _ _
  | flushed => exact .of_balanced h.balanced (by simp)
  | flushFailed => exact tidy_faultJob h.balanced _ _
  | drained => exact tidy_completeJob h.balanced _
  | _ => exact ⟨h.balanced, h.opening⟩

theorem Tidy.happened (h : s.Tidy) (ha : Happened s a s') : s'.Tidy := by
  cases ha with
  | call c answer _ hc => exact h.called hc
  | work _ hw => exact h.worked hw
  | stop => exact .of_balanced h.balanced.close (by simp)
  | change c => exact ⟨h.balanced.change c, h.opening⟩
  | _ => exact ⟨h.balanced, h.opening⟩

theorem tidy_run (writeDeadline drainDelay : Nat) (actions : List Action) :
    ((start writeDeadline drainDelay).run actions).Tidy :=
  run_induction (.of_balanced ⟨by simp [start], by simp [start], rfl, rfl⟩ (by simp [start]))
    (fun _ _ _ h ha => h.happened ha) actions

/-- Whether a worker that has stopped has closed its connection. -/
def Disconnected (s : Spooler) : Prop :=
  s.activity = .stopped → s.connection.state = .disconnected ∧ s.connection.channel = none

theorem Disconnected.happened (h : s.Disconnected) (ha : Happened s a s') : s'.Disconnected := by
  cases ha with
  | call c answer _ hc =>
    intro hact
    have hconnection : s'.connection = s.connection := by
      cases hc with
      | connectClosed => rw [enter_eq, enter_eq]
      | _ => rfl
    rw [hconnection]
    exact h (hc.activity ▸ hact)
  | work _ hw => exact fun hact => absurd hact hw.running
  | stop => exact fun _ => ⟨rfl, rfl⟩
  | _ => exact h

theorem disconnected_run (writeDeadline drainDelay : Nat) (actions : List Action) :
    ((start writeDeadline drainDelay).run actions).Disconnected :=
  run_induction (fun hact => by simp [start] at hact) (fun _ _ _ h ha => h.happened ha) actions

/-! ### After the end -/

/-- What a worker that has stopped leaves for good. -/
structure Rests (s s' : Spooler) : Prop where
  activity : s'.activity = .stopped
  connection : s'.connection = s.connection
  tickets : s'.tickets = s.tickets
  deliveries : s'.link.deliveries = s.link.deliveries

theorem Called.rests {c : Call} {answer : Answer} (h : Called s c answer s')
    (hstopped : s.activity = .stopped) : s.Rests s' := by
  have hopen : ¬s.isClosed = false := fun hopen => not_stopped_of_open hopen hstopped
  cases h with
  | configured options config hconfig h => exact absurd h hopen
  | connecting config hconfig hstage h => exact absurd h hopen
  | disconnecting h => exact absurd h hopen
  | accepted body config buffer hstage hconfig h => exact absurd h hopen
  | connectClosed =>
    rw [enter_eq, enter_eq]
    exact ⟨hstopped, rfl, rfl, rfl⟩
  | _ => exact ⟨hstopped, rfl, rfl, rfl⟩

theorem act_work_of_stopped (h : s.activity = .stopped) : s.act .work = s :=
  act_work_of_none (by simp [work, due?, h])

theorem act_stop_of_stopped (h : s.activity = .stopped) : s.act .stop = s :=
  act_stop_of_none (by simp [stop, h])

theorem rests_act (h : s.activity = .stopped) (a : Action) : s.Rests (s.act a) := by
  cases a with
  | call c => exact (called s c).rests h
  | work =>
    rw [act_work_of_stopped h]
    exact ⟨h, rfl, rfl, rfl⟩
  | stop =>
    rw [act_stop_of_stopped h]
    exact ⟨h, rfl, rfl, rfl⟩
  | change c => exact ⟨h, rfl, rfl, Link.change_deliveries _ _⟩
  | advance ms => exact ⟨h, rfl, rfl, rfl⟩

theorem rests_run (h : s.activity = .stopped) (actions : List Action) :
    s.Rests (s.run actions) := by
  induction actions generalizing s with
  | nil => exact ⟨h, rfl, rfl, rfl⟩
  | cons a actions ih =>
    have hfirst := rests_act h a
    have hrest := ih hfirst.activity
    exact ⟨hrest.activity, hrest.connection.trans hfirst.connection,
      hrest.tickets.trans hfirst.tickets, hrest.deliveries.trans hfirst.deliveries⟩

theorem writes_of_stopped (h : s.activity = .stopped) (actions : List Action) :
    s.writes actions = [] := by
  induction actions generalizing s with
  | nil => rfl
  | cons a actions ih =>
    have hnone : s.wrote a = [] := by rw [wrote, h]
    rw [writes, hnone, ih (rests_act h a).activity]
    rfl

theorem Called.stage_eq {c : Call} {answer : Answer} (h : Called s c answer s')
    (hc : c ≠ .connect) : s'.stage = s.stage := by
  cases h with
  | connectClosed => exact absurd rfl hc
  | connecting => exact absurd rfl hc
  | _ => rfl

/-- Only a call to connect changes the stage of a stopped spooler. -/
theorem stage_run_of_stopped (h : s.activity = .stopped) {actions : List Action}
    (hconnect : .call .connect ∉ actions) : (s.run actions).stage = s.stage := by
  induction actions generalizing s with
  | nil => rfl
  | cons a actions ih =>
    rw [List.mem_cons, not_or] at hconnect
    refine (ih (rests_act h a).activity hconnect.2).trans ?_
    cases a with
    | call c => exact (called s c).stage_eq fun hc => hconnect.1 (hc ▸ rfl)
    | work => rw [act_work_of_stopped h]
    | stop => rw [act_stop_of_stopped h]
    | change c => rfl
    | advance ms => rfl

/-- A call to connect is answered as `closed` and leaves a stopped spooler faulted. -/
theorem connect_of_stopped (h : s.activity = .stopped)
    (hstage : s.stage = .idle ∨ s.stage = .faulted) {config : Config}
    (hconfig : s.config = some config) :
    (s.call .connect).1 = .done (.error .closed) ∧ (s.call .connect).2.stage = .faulted := by
  have hclosed : (s.enter .connecting).isClosed = true := by
    rw [enter_eq, isClosed, h]
    rfl
  have hconnect : s.connect = (.done (.error .closed), (s.enter .connecting).enter .faulted) := by
    rw [connect, requireConfig_eq_ok_iff.2 hconfig]
    rcases hstage with hstage | hstage <;> simp only [hstage, hclosed, if_true]
  show s.connect.1 = _ ∧ s.connect.2.stage = _
  rw [hconnect, enter_eq]
  exact ⟨rfl, rfl⟩

theorem disconnect_of_stopped (h : s.activity = .stopped) :
    (s.call .disconnect).1 = .done (.ok ()) := by
  have hclosed : ({ s with config := none } : Spooler).isClosed = true := by
    rw [isClosed, h]
    rfl
  show s.disconnect.1 = _
  rw [disconnect]
  simp only [hclosed, if_true]

/-! ### Requests to connect in a run -/

/-- Whether the worker takes the request to connect of `ticket` in a run. -/
def TakesConnect (s : Spooler) (actions : List Action) (ticket : Nat) : Prop :=
  ∃ before config queue, before ++ [.work] <+: actions ∧ (s.run before).activity = .waiting ∧
    (s.run before).queue = .connect config ticket :: queue

theorem TakesConnect.append {actions : List Action} {ticket : Nat}
    (h : TakesConnect s actions ticket) (more : List Action) :
    TakesConnect s (actions ++ more) ticket := by
  obtain ⟨before, config, queue, hprefix, htake⟩ := h
  exact ⟨before, config, queue, hprefix.trans (List.prefix_append _ _), htake⟩

theorem Called.queued_of_connect {ticket : Nat} (h : Called s .connect (.ticket ticket) s') :
    ∃ config, .connect config ticket ∈ s'.queue := by
  cases h with
  | connecting config => exact ⟨config, by simp⟩

variable {writeDeadline drainDelay : Nat}

/-- A call to connect that waits for a ticket waits in the queue until the worker takes its request,
or stops and answers it as `closed`. -/
theorem connect_run {before : List Action} {ticket : Nat}
    (hticket : (((start writeDeadline drainDelay).run before).call .connect).1 = .ticket ticket)
    (after : List Action) :
    (∃ config, .connect config ticket ∈
      ((start writeDeadline drainDelay).run (before ++ .call .connect :: after)).queue) ∨
    TakesConnect (start writeDeadline drainDelay) (before ++ .call .connect :: after) ticket ∨
    (((start writeDeadline drainDelay).run (before ++ .call .connect :: after)).activity =
        .stopped ∧
      ((start writeDeadline drainDelay).run (before ++ .call .connect :: after)).tickets[ticket]? =
        some (some (.error .closed))) := by
  induction after using List.reverseRecOn with
  | nil =>
    rw [run_concat]
    have hcalled := called ((start writeDeadline drainDelay).run before) .connect
    rw [hticket] at hcalled
    exact .inl hcalled.queued_of_connect
  | append_singleton after a ih =>
    have hsplit : before ++ .call .connect :: (after ++ [a]) =
        (before ++ .call .connect :: after) ++ [a] := by simp
    rw [hsplit, run_concat]
    obtain ⟨config, hmem⟩ | htakes | ⟨hstopped, hclosed⟩ := ih
    · obtain hstays | ⟨rfl, hact, queue, hqueue⟩ | hgiven :=
        connect_act (numbered_run writeDeadline drainDelay _) hmem a
      · exact .inl ⟨config, hstays⟩
      · exact .inr (.inl ⟨_, config, queue, List.prefix_rfl, hact, hqueue⟩)
      · exact .inr (.inr hgiven)
    · exact .inr (.inl (htakes.append [a]))
    · have hrests := rests_act hstopped a
      exact .inr (.inr ⟨hrests.activity, hrests.tickets ▸ hclosed⟩)

end Spooler

end ReceiptPrinter

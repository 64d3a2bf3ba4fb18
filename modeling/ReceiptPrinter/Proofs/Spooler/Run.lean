import Mathlib.Data.List.Induction
import ReceiptPrinter.Proofs.Spooler.Worker

/-!
# Runs of a spooler

What happens in a run, action by action. The `writes` of a run are what arrived in it, each with the
job that was being written and the channel held. Only the worker's writes arrive, jobs keep what
they print and the configuration they were accepted under, and every job of a run was `Accepted` in
it.
-/

namespace ReceiptPrinter

namespace Spooler

variable {s s' : Spooler}

/-! ### What an action does -/

/-- What an action does. -/
inductive Happened (s : Spooler) : Action → Spooler → Prop
  | call (c : Call) (answer : Answer) (s' : Spooler) (h : Called s c answer s') :
    Happened s (.call c) s'
  | work (s' : Spooler) (h : Worked s s') : Happened s .work s'
  | stop (hshutdown : s.shutdown = true) (hact : s.activity = .waiting) :
    Happened s .stop { s with
      connection := (s.connection.close s.link).1
      link := (s.connection.close s.link).2
      stage := .idle
      transitions := s.entered .idle
      queue := []
      activity := .stopped
      jobs := abandonedJobs s.queue s.jobs
      tickets := abandonedTickets s.queue s.tickets }
  | change (c : LinkChange) : Happened s (.change c) { s with link := s.link.change c }
  | advance (ms : Nat) : Happened s (.advance ms) { s with now := s.now + ms }
  /-- The action cannot happen. -/
  | nothing (a : Action) : Happened s a s

theorem act_work_of_none (h : s.work = none) : s.act .work = s := by
  rw [act, h]
  rfl

theorem act_work_of_some (h : s.work = some s') : s.act .work = s' := by
  rw [act, h]
  rfl

theorem act_stop_of_none (h : s.stop = none) : s.act .stop = s := by
  rw [act, h]
  rfl

theorem act_stop_of_some (h : s.stop = some s') : s.act .stop = s' := by
  rw [act, h]
  rfl

theorem happened (s : Spooler) (a : Action) : Happened s a (s.act a) := by
  cases a with
  | call c => exact .call c _ _ (called s c)
  | work =>
    cases h : s.work with
    | none =>
      rw [act_work_of_none h]
      exact .nothing _
    | some s' =>
      rw [act_work_of_some h]
      exact .work s' (worked h)
  | stop =>
    cases h : s.stop with
    | none =>
      rw [act_stop_of_none h]
      exact .nothing _
    | some s' =>
      rw [act_stop_of_some h]
      obtain ⟨hshutdown, hwaiting, rfl⟩ := stop_eq_some_iff.1 h
      exact .stop hshutdown hwaiting
  | change c => exact .change c
  | advance ms => exact .advance ms

theorem run_append (s : Spooler) (actions after : List Action) :
    s.run (actions ++ after) = (s.run actions).run after := List.foldl_append

theorem run_concat (s : Spooler) (actions : List Action) (a : Action) :
    s.run (actions ++ [a]) = (s.run actions).act a := run_append s actions [a]

/-- An invariant of `Happened` is one of every run. -/
theorem run_induction {P : Spooler → Prop} (hstart : P s)
    (hstep : ∀ s a s', P s → Happened s a s' → P s') (actions : List Action) :
    P (s.run actions) := by
  induction actions generalizing s with
  | nil => exact hstart
  | cons a actions ih => exact ih (hstep s a _ hstart (happened s a))

/-! ### Writes -/

/-- Bytes that arrived, with the job that was being written and the channel held. -/
structure Write where
  job : Nat
  channel : Option Channel
  delivery : Delivery

/-- What arrives by an action. -/
def wrote (s : Spooler) (a : Action) : List Write :=
  match s.activity with
  | .writing job _ _ _ _ =>
    ((s.act a).link.deliveries.drop s.link.deliveries.length).map
      fun delivery => ⟨job, s.connection.channel, delivery⟩
  | _ => []

/-- What arrives in a run, in order. -/
def writes (s : Spooler) : List Action → List Write
  | [] => []
  | a :: actions => s.wrote a ++ (s.act a).writes actions

theorem writes_append (s : Spooler) (actions after : List Action) :
    s.writes (actions ++ after) = s.writes actions ++ (s.run actions).writes after := by
  induction actions generalizing s with
  | nil => rfl
  | cons a actions ih =>
    rw [List.cons_append, writes, ih, writes, List.append_assoc]
    rfl

theorem writes_concat (s : Spooler) (actions : List Action) (a : Action) :
    s.writes (actions ++ [a]) = s.writes actions ++ (s.run actions).wrote a := by
  rw [writes_append, writes, writes, List.append_nil]

theorem deliveries_faultJob (s : Spooler) (job : Nat) (e : ConnectionError) :
    (s.faultJob job e).link.deliveries = s.link.deliveries := by
  rw [faultJob_eq]
  exact Connection.dropChannel_deliveries _ _

theorem Resumed.deliveries {job : Nat} {segments : List (List UInt8)}
    (h : Resumed s job segments s') : s'.link.deliveries = s.link.deliveries := by
  cases h with
  | writing => rfl
  | flushing => rfl
  | completed => rw [completeJob_eq]
  | failed => exact deliveries_faultJob s job _

/-- A segment that is being written arrives by a step of the worker, which then goes on with the
job. -/
structure Arrives (s : Spooler) (job : Nat) (segment : List UInt8) (rest : List (List UInt8))
    (channel : Channel) (s' : Spooler) : Prop where
  writing : ∃ due, s.activity = .writing job segment rest due false
  live : s.connection.liveChannel = .ok channel
  resumed : Resumed { s with link := s.link.deliver channel segment } job rest s'

theorem Arrives.deliveries {job : Nat} {segment : List UInt8} {rest : List (List UInt8)}
    {channel : Channel} (h : s.Arrives job segment rest channel s') :
    s'.link.deliveries = s.link.deliveries ++ [⟨channel.number, segment⟩] := h.resumed.deliveries

/-- Nothing arrives by an action, or the segment that is being written does. -/
theorem Happened.deliveries {a : Action} (h : Happened s a s') :
    s'.link.deliveries = s.link.deliveries ∨
    ∃ job segment rest channel, s.Arrives job segment rest channel s' := by
  cases h with
  | call c answer _ h =>
    refine .inl ?_
    cases h with
    | connectClosed => rw [enter_eq, enter_eq]
    | _ => rfl
  | work _ h =>
    cases h with
    | wrote job segment rest due channel _ hact hlive hfault h =>
      exact .inr ⟨job, segment, rest, channel, ⟨due, hact⟩, hlive, h⟩
    | started job j segments queue _ hact hqueue hjob hphase hsegments hstage hconnected h =>
      exact .inl h.deliveries
    | closed => exact .inl (Connection.dropChannel_deliveries _ _)
    | opening => exact .inl (Connection.dropChannel_deliveries _ _)
    | opened => exact .inl (Link.finishConnect_deliveries _ _)
    | openFailed => exact .inl (Link.disconnect_deliveries _ _)
    | writeFailed => exact .inl (deliveries_faultJob s _ _)
    | flushFailed => exact .inl (deliveries_faultJob s _ _)
    | drained => exact .inl (by rw [completeJob_eq])
    | _ => exact .inl rfl
  | stop => exact .inl (Connection.dropChannel_deliveries _ _)
  | change c => exact .inl (Link.change_deliveries _ _)
  | advance => exact .inl rfl
  | nothing => exact .inl rfl

theorem targets_faultJob (s : Spooler) (job : Nat) (e : ConnectionError) :
    (s.faultJob job e).link.targets = s.link.targets := by
  rw [faultJob_eq]
  exact Connection.dropChannel_targets _ _

theorem Resumed.targets {job : Nat} {segments : List (List UInt8)}
    (h : Resumed s job segments s') : s'.link.targets = s.link.targets := by
  cases h with
  | writing => rfl
  | flushing => rfl
  | completed => rw [completeJob_eq]
  | failed => exact targets_faultJob s job _

theorem isPrefix_of_eq {α : Type} {l l' : List α} (h : l' = l) : l <+: l' := h ▸ List.prefix_rfl

theorem Worked.targets_isPrefix (h : Worked s s') : s.link.targets <+: s'.link.targets := by
  cases h with
  | opening config ticket queue hact hqueue =>
    rw [startConnect_eq]
    simp only [Connection.dropChannel_targets]
    exact List.prefix_append _ _
  | closed => exact isPrefix_of_eq (Connection.dropChannel_targets _ _)
  | opened => exact isPrefix_of_eq (Link.finishConnect_targets _ _)
  | openFailed => exact isPrefix_of_eq (Link.disconnect_targets _ _)
  | started job j segments queue _ hact hqueue hjob hphase hsegments hstage hconnected h =>
    exact isPrefix_of_eq h.targets
  | wrote job segment rest due channel _ hact hlive hfault h => exact isPrefix_of_eq h.targets
  | writeFailed => exact isPrefix_of_eq (targets_faultJob s _ _)
  | flushFailed => exact isPrefix_of_eq (targets_faultJob s _ _)
  | drained => exact isPrefix_of_eq (by rw [completeJob_eq])
  | _ => exact isPrefix_of_eq rfl

/-- Channels keep their printers. -/
theorem Happened.targets_isPrefix {a : Action} (h : Happened s a s') :
    s.link.targets <+: s'.link.targets := by
  cases h with
  | call c answer _ h =>
    have hlink : s'.link = s.link := by
      cases h with
      | connectClosed => rw [enter_eq, enter_eq]
      | _ => rfl
    exact isPrefix_of_eq (congrArg Link.targets hlink)
  | work _ h => exact h.targets_isPrefix
  | stop => exact isPrefix_of_eq (Connection.dropChannel_targets _ _)
  | change c => exact isPrefix_of_eq (Link.change_targets _ _)
  | advance => exact List.prefix_rfl
  | nothing => exact List.prefix_rfl

/-- The writes of an action: none, or the one of the segment that is being written. -/
theorem wrote_cases (s : Spooler) (a : Action) :
    (s.wrote a = [] ∧ (s.act a).link.deliveries = s.link.deliveries) ∨
    ∃ job segment rest channel, s.Arrives job segment rest channel (s.act a) ∧
      s.wrote a = [⟨job, some channel, ⟨channel.number, segment⟩⟩] := by
  obtain h | ⟨job, segment, rest, channel, h⟩ := (happened s a).deliveries
  · refine .inl ⟨?_, h⟩
    unfold wrote
    split
    · rw [h, List.drop_length, List.map_nil]
    · rfl
  · refine .inr ⟨job, segment, rest, channel, h, ?_⟩
    obtain ⟨due, hact⟩ := h.writing
    rw [wrote, hact]
    simp only [h.deliveries, List.drop_left, (Connection.liveChannel_eq_ok_iff.1 h.live).2,
      List.map_cons, List.map_nil]

/-- The deliveries of a run are those of its `writes`. -/
theorem deliveries_run (s : Spooler) (actions : List Action) :
    (s.run actions).link.deliveries =
      s.link.deliveries ++ (s.writes actions).map Write.delivery := by
  induction actions generalizing s with
  | nil => exact (List.append_nil _).symm
  | cons a actions ih =>
    show ((s.act a).run actions).link.deliveries = _
    rw [ih, writes, List.map_append, ← List.append_assoc]
    obtain ⟨hwrote, hdeliveries⟩ | ⟨job, segment, rest, channel, harrives, hwrote⟩ :=
      s.wrote_cases a
    · rw [hwrote, hdeliveries, List.map_nil, List.append_nil]
    · rw [hwrote, harrives.deliveries]
      rfl

/-! ### Jobs -/

end Spooler

def Job.order (j : Job) : JobBody × Config := (j.body, j.config)

namespace Spooler

variable {s s' : Spooler}

def orders (s : Spooler) : List (JobBody × Config) := s.jobs.map Job.order

theorem order_cancel (j : Job) : j.cancel.2.order = j.order := by
  unfold Job.cancel
  split <;> rfl

theorem map_order_modify (jobs : List Job) (i : Nat) {f : Job → Job}
    (hf : ∀ j, (f j).order = j.order) : (jobs.modify i f).map Job.order = jobs.map Job.order := by
  refine List.ext_getElem? fun k => ?_
  rw [List.getElem?_map, List.getElem?_map, List.getElem?_modify]
  cases jobs[k]? with
  | none => rfl
  | some j =>
    by_cases hk : i = k
    · simp [hk, hf]
    · simp [hk]

theorem map_order_outcomes (jobs : List Job) (job : Nat) (result : PrintResult) :
    (outcomes jobs job result).map Job.order = jobs.map Job.order :=
  map_order_modify jobs job fun _ => rfl

theorem map_order_abandonedJobs (queue : List Request) (jobs : List Job) :
    (abandonedJobs queue jobs).map Job.order = jobs.map Job.order := by
  induction queue generalizing jobs with
  | nil => rfl
  | cons request queue ih =>
    cases request with
    | print job => exact (ih _).trans (map_order_outcomes jobs job _)
    | configure => exact ih jobs
    | connect => exact ih jobs
    | disconnect => exact ih jobs

theorem orders_faultJob (s : Spooler) (job : Nat) (e : ConnectionError) :
    (s.faultJob job e).orders = s.orders := by
  rw [faultJob_eq]
  exact map_order_outcomes _ _ _

theorem orders_completeJob (s : Spooler) (job : Nat) : (s.completeJob job).orders = s.orders := by
  rw [completeJob_eq]
  exact map_order_outcomes _ _ _

theorem orders_startJob (s : Spooler) (queue : List Request) (job : Nat) :
    (s.startJob queue job).orders = s.orders := map_order_modify _ _ fun _ => rfl

theorem orders_beginJob (s : Spooler) (queue : List Request) (job : Nat) :
    (s.beginJob queue job).orders = s.orders := orders_startJob s queue job

theorem Resumed.orders {job : Nat} {segments : List (List UInt8)} (h : Resumed s job segments s') :
    s'.orders = s.orders := by
  cases h with
  | writing => rfl
  | flushing => rfl
  | completed => exact orders_completeJob s job
  | failed e => exact orders_faultJob s job _

theorem Worked.orders (h : Worked s s') : s'.orders = s.orders := by
  cases h with
  | skipped => exact map_order_outcomes _ _ _
  | refused job j e queue =>
    exact (map_order_outcomes _ _ _).trans (orders_startJob s queue job)
  | started job j segments queue _ hact hqueue hjob hphase hsegments hstage hconnected h =>
    exact h.orders.trans (orders_beginJob s queue job)
  | wrote job segment rest due channel _ hact hlive hfault h => exact h.orders
  | writeFailed => exact orders_faultJob s _ _
  | flushFailed => exact orders_faultJob s _ _
  | drained => exact orders_completeJob s _
  | _ => rfl

/-- A call leaves the orders as they are, or its job is accepted under the installed configuration.
-/
theorem Called.orders {c : Call} {answer : Answer} (h : Called s c answer s') :
    s'.orders = s.orders ∨ ∃ body config, answer = .job s.jobs.length ∧ s.config = some config ∧
      s'.orders = s.orders ++ [(body, config)] := by
  cases h with
  | cancelled => exact .inl (map_order_modify _ _ order_cancel)
  | connectClosed => exact .inl (by rw [enter_eq, enter_eq]; rfl)
  | accepted body config buffer hstage hconfig hopen =>
    exact .inr ⟨body, config, rfl, hconfig, List.map_append⟩
  | _ => exact .inl rfl

theorem Happened.orders {a : Action} (h : Happened s a s') (ha : ∀ c, a ≠ .call c) :
    s'.orders = s.orders := by
  cases h with
  | call c => exact absurd rfl (ha c)
  | work _ h => exact h.orders
  | stop => exact map_order_abandonedJobs _ _
  | change => rfl
  | advance => rfl
  | nothing => rfl

/-- Whether a call of the run is answered with the number of the job, under the configuration that
is installed then. -/
def Accepted (s : Spooler) (actions : List Action) (job : Nat) (order : JobBody × Config) : Prop :=
  ∃ before c after, actions = before ++ .call c :: after ∧
    ((s.run before).call c).1 = .job job ∧ (s.run before).config = some order.2 ∧
    job = (s.run before).orders.length ∧
    ((s.run before).call c).2.orders = (s.run before).orders ++ [order]

theorem Accepted.append {actions : List Action} {job : Nat} {order : JobBody × Config}
    (h : Accepted s actions job order) (more : List Action) :
    Accepted s (actions ++ more) job order := by
  obtain ⟨before, c, after, rfl, haccepted⟩ := h
  exact ⟨before, c, after ++ more, by simp, haccepted⟩

/-- Every job of a run was `Accepted` in it. -/
theorem accepted_of_orders (hjobs : s.jobs = []) {actions : List Action} {job : Nat}
    {order : JobBody × Config} (h : (s.run actions).orders[job]? = some order) :
    Accepted s actions job order := by
  induction actions using List.reverseRecOn with
  | nil =>
    have hempty : s.orders = [] := by rw [orders, hjobs, List.map_nil]
    have hnone : s.orders[job]? = some order := h
    rw [hempty] at hnone
    cases hnone
  | append_singleton actions a ih =>
    rw [run_concat] at h
    have hold : (s.run actions).orders[job]? = some order → Accepted s (actions ++ [a]) job order :=
      fun h => (ih h).append [a]
    by_cases ha : ∃ c, a = .call c
    · obtain ⟨c, rfl⟩ := ha
      obtain heq | ⟨body, config, hanswer, hconfig, heq⟩ := (called (s.run actions) c).orders
      · have hact : ((s.run actions).act (.call c)).orders = (s.run actions).orders := heq
        rw [hact] at h
        exact hold h
      · have hact : ((s.run actions).act (.call c)).orders =
            (s.run actions).orders ++ [(body, config)] := heq
        rw [hact] at h
        by_cases hlt : job < (s.run actions).orders.length
        · rw [List.getElem?_append_left hlt] at h
          exact hold h
        · have hlen : job = (s.run actions).orders.length := by
            have hbound := (List.getElem?_eq_some_iff.1 h).1
            rw [List.length_append, List.length_singleton] at hbound
            omega
          have horder : order = (body, config) := by
            rw [hlen, List.getElem?_concat_length] at h
            exact (Option.some.inj h).symm
          have hjob : (s.run actions).jobs.length = job := by
            rw [hlen, Spooler.orders, List.length_map]
          exact ⟨actions, c, [], by simp, by rw [hanswer, hjob], by rw [horder, hconfig], hlen,
            by rw [horder, heq]⟩
    · rw [(happened (s.run actions) a).orders fun c hc => ha ⟨c, hc⟩] at h
      exact hold h

end Spooler

end ReceiptPrinter

import ReceiptPrinter.Proofs.Spooler.Coherent

/-!
# Where jobs are printed

The configuration is installed when a call is made, the connection is closed or opened when the
worker gets to the request. `Follows` tells how the one follows from the other along the queue: read
from its front, each request finds the configuration under which it was made. Every job is written
over a channel that `Reaches` the device of the configuration it was accepted under.
-/

namespace ReceiptPrinter

theorem Target.sameDevice_self (target : Target) : target.sameDevice target = true := by
  cases target <;> simp [sameDevice, Text.sameLetters]

namespace Spooler

variable {s s' : Spooler} {orders : List (JobBody × Config)} {current installed : Option Config}

/-- Whether the requests of a queue lead from a configuration to the `installed` one, and each finds
the configuration under which it was made. -/
def Follows (orders : List (JobBody × Config)) (installed : Option Config) :
    Option Config → List Request → Prop
  | current, [] => current = installed
  | _, .configure config _ :: queue => Follows orders installed (some config) queue
  | current, .connect config _ :: queue =>
    current = some config ∧ Follows orders installed current queue
  | current, .print job :: queue =>
    (∃ order, orders[job]? = some order ∧ current = some order.2) ∧
      Follows orders installed current queue
  | _, .disconnect _ :: queue => Follows orders installed none queue

theorem Follows.append {middle : Option Config} {queue requests : List Request}
    (h : Follows orders middle current queue) (hr : Follows orders installed middle requests) :
    Follows orders installed current (queue ++ requests) := by
  induction queue generalizing current with
  | nil =>
    obtain rfl : current = middle := h
    exact hr
  | cons request queue ih =>
    cases request with
    | configure config ticket =>
      have hrest : Follows orders middle (some config) queue := h
      exact ih hrest
    | connect config ticket => exact ⟨h.1, ih h.2⟩
    | print job => exact ⟨h.1, ih h.2⟩
    | disconnect ticket =>
      have hrest : Follows orders middle none queue := h
      exact ih hrest

theorem Follows.mono {orders' : List (JobBody × Config)} {queue : List Request}
    (h : Follows orders installed current queue) (horders : orders <+: orders') :
    Follows orders' installed current queue := by
  induction queue generalizing current with
  | nil => exact h
  | cons request queue ih =>
    cases request with
    | configure config ticket =>
      have hrest : Follows orders installed (some config) queue := h
      exact ih hrest
    | connect config ticket => exact ⟨h.1, ih h.2⟩
    | print job =>
      obtain ⟨⟨order, horder, hcurrent⟩, hrest⟩ := h
      obtain ⟨more, rfl⟩ := horders
      have hlt := (List.getElem?_eq_some_iff.1 horder).1
      exact ⟨⟨order, by rw [List.getElem?_append_left hlt, horder], hcurrent⟩, ih hrest⟩
    | disconnect ticket =>
      have hrest : Follows orders installed none queue := h
      exact ih hrest

/-- How the worker stands to the configuration `current`: the queue leads from it to the installed
one, the connection is to its device, and so is the job that is printed. -/
structure Serves (s : Spooler) (current : Option Config) : Prop where
  follows : Follows s.orders s.config current s.queue
  near : ∀ target, s.connection.target = some target →
    ∃ config, current = some config ∧ target.sameDevice config.target = true
  printing : ∀ job, s.activity.job? = some job →
    ∃ order, s.orders[job]? = some order ∧ current = some order.2

/-- Whether the worker serves some configuration, or has stopped. -/
def Served (s : Spooler) : Prop := s.activity = .stopped ∨ ∃ current, s.Serves current

theorem served_start (writeDeadline drainDelay : Nat) : (start writeDeadline drainDelay).Served :=
  .inr ⟨none, rfl, by simp [start], by simp [start, Activity.job?]⟩

theorem stopped_of_isClosed (h : s.isClosed = true) : s.activity = .stopped := beq_iff_eq.1 h

theorem Served.called (h : s.Served) {c : Call} {answer : Answer} (hc : Called s c answer s') :
    s'.Served := by
  obtain hstopped | ⟨current, hfollows, hnear, hprinting⟩ := h
  · -- a call does not wake a stopped worker
    refine .inl ?_
    cases hc with
    | connectClosed => rw [enter_eq, enter_eq]; exact hstopped
    | _ => exact hstopped
  · cases hc with
    | cancelled job j hj =>
      have horders : (s.updateJob job fun j => j.cancel.2).orders = s.orders :=
        map_order_modify _ _ order_cancel
      refine .inr ⟨current, ?_, hnear, ?_⟩
      · rw [horders]
        exact hfollows
      · rw [horders]
        exact hprinting
    | installed options config hconfig hclosed => exact .inl (stopped_of_isClosed hclosed)
    | configured options config hconfig hopen =>
      exact .inr ⟨current, hfollows.append rfl, hnear, hprinting⟩
    | connectClosed config hconfig hstage hclosed =>
      refine .inl ?_
      rw [enter_eq, enter_eq]
      exact stopped_of_isClosed hclosed
    | connecting config hconfig hstage hopen =>
      exact .inr ⟨current, hfollows.append ⟨hconfig, rfl⟩, hnear, hprinting⟩
    | forgotten hclosed => exact .inl (stopped_of_isClosed hclosed)
    | disconnecting hopen => exact .inr ⟨current, hfollows.append rfl, hnear, hprinting⟩
    | accepted body config buffer hstage hconfig hopen =>
      have horders : (s.jobs ++ [({ body, config } : Job)]).map Job.order =
          s.orders ++ [(body, config)] := List.map_append
      have hlast : (s.orders ++ [(body, config)])[s.jobs.length]? = some (body, config) := by
        have hlen : s.orders.length = s.jobs.length := List.length_map _
        rw [← hlen, List.getElem?_concat_length]
      refine .inr ⟨current, ?_, hnear, fun job hjob => ?_⟩
      · show Follows ((s.jobs ++ [({ body, config } : Job)]).map Job.order) s.config current _
        rw [horders]
        exact (hfollows.mono (List.prefix_append _ _)).append ⟨⟨_, hlast, hconfig⟩, rfl⟩
      · obtain ⟨order, horder, hcurrent⟩ := hprinting job hjob
        refine ⟨order, ?_, hcurrent⟩
        show ((s.jobs ++ [({ body, config } : Job)]).map Job.order)[job]? = some order
        rw [horders, List.getElem?_append_left (List.getElem?_eq_some_iff.1 horder).1, horder]
    | _ => exact .inr ⟨current, hfollows, hnear, hprinting⟩

theorem Serves.faultJob (h : s.Serves current) (job : Nat) (e : ConnectionError) :
    (s.faultJob job e).Serves current := by
  have horders := orders_faultJob s job e
  rw [faultJob_eq] at horders ⊢
  exact ⟨horders ▸ h.follows, h.near, by simp [Activity.job?]⟩

theorem Serves.completeJob (h : s.Serves current) (job : Nat) :
    (s.completeJob job).Serves current := by
  have horders := orders_completeJob s job
  rw [completeJob_eq] at horders ⊢
  exact ⟨horders ▸ h.follows, h.near, by simp [Activity.job?]⟩

theorem Serves.resumed (h : s.Serves current) {job : Nat} {segments : List (List UInt8)}
    (horder : ∃ order, s.orders[job]? = some order ∧ current = some order.2)
    (hr : Resumed s job segments s') : s'.Serves current := by
  cases hr with
  | writing =>
    refine ⟨h.follows, h.near, fun i hi => ?_⟩
    cases hi
    exact horder
  | flushing =>
    refine ⟨h.follows, h.near, fun i hi => ?_⟩
    cases hi
    exact horder
  | completed => exact h.completeJob job
  | failed e => exact h.faultJob job _

theorem Serves.follows_of_cons (h : s.Serves current) {request : Request} {queue : List Request}
    (hqueue : s.queue = request :: queue) :
    Follows s.orders s.config current (request :: queue) := hqueue ▸ h.follows

theorem Served.worked (h : s.Served) (hw : Worked s s') : s'.Served := by
  have horders := hw.orders
  obtain hstopped | ⟨current, h⟩ := h
  · cases hw <;> simp_all
  · have hjob : s.activity = .waiting → s.activity.job? = none := fun hact => by rw [hact]; rfl
    cases hw with
    | kept config ticket queue hact hqueue hsame =>
      have hfollows := h.follows_of_cons hqueue
      refine .inr ⟨some config, hfollows, fun target htarget => ?_, by simp [hjob hact]⟩
      exact ⟨config, rfl, hsame target htarget⟩
    | closed request ticket queue hact hqueue hcloses =>
      have hfollows := h.follows_of_cons hqueue
      cases request with
      | configure config _ =>
        exact .inr ⟨some config, hfollows, by simp [Connection.close], by simp [hjob hact]⟩
      | disconnect _ =>
        exact .inr ⟨none, hfollows, by simp [Connection.close], by simp [hjob hact]⟩
      | connect _ _ => exact hcloses.elim
      | print _ => exact hcloses.elim
    | opening config ticket queue hact hqueue =>
      obtain ⟨hcurrent, hfollows⟩ := h.follows_of_cons hqueue
      rw [startConnect_eq]
      refine .inr ⟨current, hfollows, fun target htarget => ?_, by simp [Activity.job?]⟩
      cases htarget
      exact ⟨config, hcurrent, config.target.sameDevice_self⟩
    | opened ticket channel due hact hfault =>
      exact .inr ⟨current, h.follows, h.near, by simp [Activity.job?]⟩
    | openFailed ticket channel due e hact hfault =>
      exact .inr ⟨current, h.follows, h.near, by simp [Activity.job?]⟩
    | unknown job queue hact hqueue hnone =>
      exact .inr ⟨current, (h.follows_of_cons hqueue).2, h.near, by simp [hjob hact]⟩
    | skipped job j queue hact hqueue hj hphase =>
      refine .inr ⟨current, ?_, h.near, by simp [hjob hact]⟩
      rw [horders]
      exact (h.follows_of_cons hqueue).2
    | refused job j e queue hact hqueue hj hphase hrefuses =>
      refine .inr ⟨current, ?_, h.near, by simp [finishJob_eq, startJob, hjob hact]⟩
      rw [horders]
      exact (h.follows_of_cons hqueue).2
    | started job j segments queue _ hact hqueue hj hphase hsegments hstage hconnected hr =>
      obtain ⟨horder, hfollows⟩ := h.follows_of_cons hqueue
      have horders' := orders_beginJob s queue job
      refine .inr ⟨current, Serves.resumed ?_ ?_ hr⟩
      · refine ⟨?_, h.near, by simp [beginJob, startJob, hjob hact]⟩
        rw [horders']
        exact hfollows
      · rw [horders']
        exact horder
    | wrote job segment rest due channel _ hact hlive hfault hr =>
      have horder := h.printing job (by rw [hact]; rfl)
      refine .inr ⟨current, Serves.resumed ?_ ?_ hr⟩
      · exact ⟨h.follows, h.near, h.printing⟩
      · exact horder
    | writeFailed => exact .inr ⟨current, h.faultJob _ _⟩
    | flushed job due hact =>
      have horder := h.printing job (by rw [hact]; rfl)
      refine .inr ⟨current, h.follows, h.near, fun i hi => ?_⟩
      cases hi
      exact horder
    | flushFailed => exact .inr ⟨current, h.faultJob _ _⟩
    | drained => exact .inr ⟨current, h.completeJob _⟩

theorem Served.happened (h : s.Served) {a : Action} (ha : Happened s a s') : s'.Served := by
  cases ha with
  | call c answer _ hc => exact h.called hc
  | work _ hw => exact h.worked hw
  | stop => exact .inl rfl
  | change c =>
    obtain hstopped | ⟨current, h⟩ := h
    · exact .inl hstopped
    · exact .inr ⟨current, h.follows, h.near, h.printing⟩
  | advance =>
    obtain hstopped | ⟨current, h⟩ := h
    · exact .inl hstopped
    · exact .inr ⟨current, h.follows, h.near, h.printing⟩
  | nothing => exact h

theorem served_run (writeDeadline drainDelay : Nat) (actions : List Action) :
    ((start writeDeadline drainDelay).run actions).Served :=
  run_induction (served_start writeDeadline drainDelay) (fun _ _ _ h ha => h.happened ha) actions

/-! ### Channels of writes -/

/-- Whether `channel` was made for the device of `config`. -/
def Reaches (s : Spooler) (channel : Nat) (config : Config) : Prop :=
  ∃ target, s.link.targets[channel]? = some target ∧ target.sameDevice config.target = true

/-- The channel that a job is printed over `Reaches` the device of its configuration. -/
theorem reaches_of_printing (hserved : s.Served) (hcoherent : s.Coherent) {job : Nat}
    (hjob : s.activity.job? = some job) {channel : Channel}
    (hchannel : s.connection.channel = some channel) :
    ∃ order, s.orders[job]? = some order ∧ s.Reaches channel.number order.2 := by
  obtain hstopped | ⟨current, h⟩ := hserved
  · rw [hstopped] at hjob
    cases hjob
  · obtain ⟨order, horder, rfl⟩ := h.printing job hjob
    obtain ⟨-, target, htarget, hnumber⟩ := hcoherent.channel channel hchannel
    obtain ⟨config, hconfig, hsame⟩ := h.near target htarget
    cases hconfig
    exact ⟨order, horder, target, hnumber, hsame⟩

theorem Reaches.happened {channel : Nat} {config : Config} (h : s.Reaches channel config)
    {a : Action} (ha : Happened s a s') : s'.Reaches channel config := by
  obtain ⟨target, htarget, hsame⟩ := h
  obtain ⟨more, hmore⟩ := ha.targets_isPrefix
  refine ⟨target, ?_, hsame⟩
  rw [← hmore, List.getElem?_append_left (List.getElem?_eq_some_iff.1 htarget).1, htarget]

variable (writeDeadline drainDelay : Nat)

/-- The channel over which a job is printed `Reaches` the device of the configuration under which
the job was accepted. -/
theorem reaches_of_job {actions : List Action} {job : Nat} {channel : Channel}
    (hjob : ((start writeDeadline drainDelay).run actions).activity.job? = some job)
    (hchannel : ((start writeDeadline drainDelay).run actions).connection.channel =
      some channel) :
    ∃ order, (start writeDeadline drainDelay).Accepted actions job order ∧
      ((start writeDeadline drainDelay).run actions).Reaches channel.number order.2 := by
  obtain ⟨order, horder, hreaches⟩ :=
    reaches_of_printing (served_run writeDeadline drainDelay actions)
      (coherent_run writeDeadline drainDelay actions) hjob hchannel
  exact ⟨order, accepted_of_orders rfl horder, hreaches⟩

theorem reaches_of_mem_writes {actions : List Action} {w : Write}
    (h : w ∈ (start writeDeadline drainDelay).writes actions) :
    ∃ order, (start writeDeadline drainDelay).Accepted actions w.job order ∧
      ((start writeDeadline drainDelay).run actions).Reaches w.delivery.channel order.2 := by
  induction actions using List.reverseRecOn with
  | nil => cases h
  | append_singleton actions a ih =>
    have hlast := happened ((start writeDeadline drainDelay).run actions) a
    rw [writes_concat] at h
    rw [run_concat]
    rcases List.mem_append.1 h with h | h
    · obtain ⟨order, haccepted, hreaches⟩ := ih h
      exact ⟨order, haccepted.append [a], hreaches.happened hlast⟩
    · obtain ⟨hnone, -⟩ | ⟨job, segment, rest, channel, harrives, hwrote⟩ :=
        wrote_cases ((start writeDeadline drainDelay).run actions) a
      · rw [hnone] at h
        cases h
      · obtain ⟨due, hact⟩ := harrives.writing
        rw [hwrote, List.mem_singleton] at h
        obtain ⟨order, haccepted, hreaches⟩ := reaches_of_job writeDeadline drainDelay
          (by rw [hact]; rfl) (Connection.liveChannel_eq_ok_iff.1 harrives.live).2
        rw [h]
        exact ⟨order, haccepted.append [a], hreaches.happened hlast⟩

/-- No job reaches the wrong printer: the deliveries of a run are writes of jobs over channels to
the devices of the configurations under which the jobs were accepted, and a job that is being
printed holds such a channel. -/
theorem jobs_reach_own_device (actions : List Action) :
    ((start writeDeadline drainDelay).run actions).link.deliveries =
        ((start writeDeadline drainDelay).writes actions).map Write.delivery ∧
      (∀ w ∈ (start writeDeadline drainDelay).writes actions,
        ∃ order, (start writeDeadline drainDelay).Accepted actions w.job order ∧
          ((start writeDeadline drainDelay).run actions).Reaches w.delivery.channel order.2) ∧
      ∀ job, ((start writeDeadline drainDelay).run actions).activity.job? = some job →
        ∃ channel order,
          ((start writeDeadline drainDelay).run actions).connection.channel = some channel ∧
          (start writeDeadline drainDelay).Accepted actions job order ∧
          ((start writeDeadline drainDelay).run actions).Reaches channel.number order.2 := by
  refine ⟨?_, fun w hw => reaches_of_mem_writes writeDeadline drainDelay hw, fun job hjob => ?_⟩
  · rw [deliveries_run]
    rfl
  · obtain ⟨-, -, channel, hchannel⟩ :=
      (coherent_run writeDeadline drainDelay actions).printing job hjob
    obtain ⟨order, haccepted, hreaches⟩ :=
      reaches_of_job writeDeadline drainDelay hjob hchannel
    exact ⟨channel, order, hchannel, haccepted, hreaches⟩

end Spooler

end ReceiptPrinter

import ReceiptPrinter.Proofs.Spooler.Ledger

/-!
# Bytes on the wire

`wire_eq_jobs`: what arrives in a run are, over the jobs in the order in which they were accepted,
the first segments of each job, the drawer kick and the cut of `Config.closingBytes` last. They are
all segments, over one open channel, if the job succeeded, and none if it failed for another reason
than a fault of the connection.
-/

namespace ReceiptPrinter.Spooler

variable {s s' : Spooler} {log : List Write} {taken : Nat}

/-! ### The job that is printed -/

/-- Whether the connection holds an open channel. -/
def HoldsOpen (s : Spooler) : Prop :=
  ∃ channel, s.connection.channel = some channel ∧ channel.isOpen = true

theorem Coherent.holdsOpen (h : s.Coherent) (hconnected : s.Connected) : s.HoldsOpen := by
  obtain ⟨-, channel, hchannel⟩ := hconnected
  exact ⟨channel, hchannel, (h.channel channel hchannel).1⟩

section
variable {job : Nat} {left : List (List UInt8)}

theorem Ledger.faultJob (h : Ledger s log taken (some (job, left))) (e : ConnectionError) :
    Ledger (s.faultJob job e) log taken (s.faultJob job e).activity.progress? := by
  rw [faultJob_eq]
  refine h.end (.error (.connection e)) rfl ?_ ?_
  · exact map_standing_outcomes s.jobs job _
  · intro order hprints hover
    exact ⟨_, hprints, List.prefix_append _ _⟩

theorem Ledger.completeJob (h : Ledger s log taken (some (job, []))) (hholds : s.HoldsOpen) :
    Ledger (s.completeJob job) log taken (s.completeJob job).activity.progress? := by
  obtain ⟨channel, hchannel, hopen⟩ := hholds
  rw [completeJob_eq]
  refine h.end (.ok ()) rfl ?_ ?_
  · exact map_standing_outcomes s.jobs job _
  · intro order hprints hover
    rw [List.append_nil] at hprints
    exact ⟨channel, hopen, hover channel hchannel, hprints⟩

theorem Ledger.resumed (h : Ledger s log taken (some (job, left))) (hholds : s.HoldsOpen)
    (hr : Resumed s job left s') :
    Ledger s' log taken s'.activity.progress? := by
  cases hr with
  | writing => exact h.of_eq rfl rfl (.inr rfl)
  | flushing => exact h.of_eq rfl rfl (.inr rfl)
  | completed => exact h.completeJob hholds
  | failed e => exact h.faultJob _

end

/-! ### One action -/

theorem Ledger.called (h : Ledger s log taken s.activity.progress?) {c : Call} {answer : Answer}
    (hc : Called s c answer s') : Ledger s' log taken s'.activity.progress? := by
  -- a request that is no job leaves those for jobs as they are
  have hother : ∀ request : Request, request.job? = none →
      (s.queue ++ [request]).filterMap Request.job? = s.queue.filterMap Request.job? := by
    intro request hnone
    rw [List.filterMap_append, List.filterMap_cons_none hnone, List.filterMap_nil, List.append_nil]
  cases hc with
  | cancelled job j hjob =>
    exact h.of_eq rfl (map_standing_modify s.jobs job standing_cancel) (.inr rfl)
  | configured options config => exact h.of_eq (hother (.configure config _) rfl) rfl (.inr rfl)
  | connecting config => exact h.of_eq (hother (.connect config _) rfl) rfl (.inr rfl)
  | disconnecting => exact h.of_eq (hother (.disconnect _) rfl) rfl (.inr rfl)
  | connectClosed =>
    rw [enter_eq, enter_eq]
    exact h.of_eq rfl rfl (.inr rfl)
  | accepted body config buffer =>
    refine h.accept (body, config) ?_ ?_ rfl
    · rw [standings_length]
    · exact List.map_append
  | _ => exact h.of_eq rfl rfl (.inr rfl)

theorem standings_startJob (s : Spooler) (queue : List Request) (job : Nat) :
    (s.startJob queue job).standings = s.standings := map_standing_modify _ _ fun _ => rfl

theorem Refuses.not_connection {j : Job} {e : PrintError} (h : s.Refuses j e)
    (fault : ConnectionError) : e ≠ .connection fault := by
  obtain ⟨encoding, -, rfl⟩ | ⟨segments, -, -, rfl⟩ := h
  · simp
  · simp

theorem Closes.job?_eq_none {request : Request} (h : s.Closes request) : request.job? = none := by
  cases request with
  | print job => cases h
  | _ => rfl

/-- A step of the worker by which nothing arrives. -/
theorem Ledger.worked (h : Ledger s log taken s.activity.progress?) (hcoherent : s.Coherent)
    (hw : Worked s s') (hquiet : s'.link.deliveries = s.link.deliveries) :
    ∃ taken', Ledger s' log taken' s'.activity.progress? := by
  have hidle : s.activity = .waiting → s.activity.progress? = none := by
    intro hact
    rw [hact]
    rfl
  cases hw with
  | kept config ticket queue hact hqueue =>
    refine ⟨taken, h.of_eq ?_ rfl (.inr rfl)⟩
    rw [hqueue]
    rfl
  | closed request ticket queue hact hqueue hcloses =>
    refine ⟨taken, h.of_eq ?_ rfl (.inl (hidle hact))⟩
    rw [hqueue, List.filterMap_cons_none hcloses.job?_eq_none]
  | opening config ticket queue hact hqueue =>
    rw [hact] at h
    rw [startConnect_eq]
    refine ⟨taken, h.of_eq ?_ rfl (.inl rfl)⟩
    rw [hqueue]
    rfl
  | opened ticket channel due hact =>
    rw [hact] at h
    exact ⟨taken, h.of_eq rfl rfl (.inl rfl)⟩
  | openFailed ticket channel due e hact =>
    rw [hact] at h
    exact ⟨taken, h.of_eq rfl rfl (.inl rfl)⟩
  | unknown job queue hact hqueue hjob =>
    obtain ⟨rfl, hlt, -⟩ := h.next hqueue
    rw [standings_length] at hlt
    have hle := List.getElem?_eq_none_iff.1 hjob
    omega
  | skipped job j queue hact hqueue =>
    refine ⟨taken + 1, ?_⟩
    show Ledger _ log _ s.activity.progress?
    rw [hidle hact] at h ⊢
    exact h.refuse (e := .cancelled) (by simp) hqueue rfl (map_standing_outcomes s.jobs job _)
  | refused job j e queue hact hqueue hjob hphase hrefuses =>
    refine ⟨taken + 1, ?_⟩
    show Ledger _ log _ s.activity.progress?
    rw [hidle hact] at h ⊢
    refine h.refuse hrefuses.not_connection hqueue rfl ?_
    exact (map_standing_outcomes _ job _).trans
      (congrArg (conclude · job (.error e)) (standings_startJob s queue job))
  | started job j segments queue _ hact hqueue hjob hphase hsegments hstage hconnected hr =>
    rw [hidle hact] at h
    have hbegun : Ledger (s.beginJob queue job) log (taken + 1) (some (job, segments)) :=
      h.begin hqueue hjob hsegments rfl (standings_startJob s queue job)
    exact ⟨taken + 1,
      hbegun.resumed (hcoherent.holdsOpen (connected_of_isConnected hconnected)) hr⟩
  | wrote job segment rest due channel _ hact hlive hfault hr =>
    rw [hr.deliveries] at hquiet
    exact absurd hquiet (by simp [Link.deliver])
  | writeFailed job segment rest due late e hact =>
    rw [hact] at h
    exact ⟨taken, h.faultJob e⟩
  | flushed job due hact =>
    rw [hact] at h
    exact ⟨taken, h.of_eq rfl rfl (.inr rfl)⟩
  | flushFailed job due late e hact =>
    rw [hact] at h
    exact ⟨taken, h.faultJob e⟩
  | drained job due hact =>
    rw [hact] at h
    exact ⟨taken, h.completeJob (hcoherent.holdsOpen (hcoherent.printing job (by rw [hact]; rfl)).2)⟩

/-- The segment that is being written arrives. -/
theorem Ledger.arrives (h : Ledger s log taken s.activity.progress?) (hcoherent : s.Coherent)
    {job : Nat} {segment : List UInt8} {rest : List (List UInt8)} {channel : Channel}
    (ha : s.Arrives job segment rest channel s') :
    Ledger s' (log ++ [⟨job, some channel, ⟨channel.number, segment⟩⟩]) taken
      s'.activity.progress? := by
  obtain ⟨due, hact⟩ := ha.writing
  have hchannel := (Connection.liveChannel_eq_ok_iff.1 ha.live).2
  have hconnected := (hcoherent.printing job (by rw [hact]; rfl)).2
  rw [hact] at h
  have hwritten : Ledger { s with link := s.link.deliver channel segment }
      (log ++ [⟨job, some channel, ⟨channel.number, segment⟩⟩]) taken (some (job, rest)) :=
    h.write hchannel rfl rfl rfl
  exact hwritten.resumed (hcoherent.holdsOpen hconnected) ha.resumed

/-- An action by which nothing arrives. -/
theorem Ledger.happened (h : Ledger s log taken s.activity.progress?) (hcoherent : s.Coherent)
    {a : Action} (ha : Happened s a s') (hquiet : s'.link.deliveries = s.link.deliveries) :
    ∃ taken', Ledger s' log taken' s'.activity.progress? := by
  cases ha with
  | call c answer _ hc => exact ⟨taken, h.called hc⟩
  | work _ hw => exact h.worked hcoherent hw hquiet
  | stop hshutdown hact =>
    rw [hact] at h
    exact ⟨_, h.abandon rfl (map_standing_abandonedJobs s.queue s.jobs)⟩
  | change => exact ⟨taken, h.of_eq rfl rfl (.inr rfl)⟩
  | advance => exact ⟨taken, h.of_eq rfl rfl (.inr rfl)⟩
  | nothing => exact ⟨taken, h⟩

/-! ### Runs -/

variable (writeDeadline drainDelay : Nat)

/-- `Ledger` holds in every run. -/
theorem ledger_run (actions : List Action) :
    ∃ taken, Ledger ((start writeDeadline drainDelay).run actions)
      ((start writeDeadline drainDelay).writes actions) taken
      ((start writeDeadline drainDelay).run actions).activity.progress? := by
  induction actions using List.reverseRecOn with
  | nil =>
    refine ⟨0, Nat.le_refl _, rfl, ?_, ⟨?_, rfl⟩, ?_, ?_⟩
    · intro i r hi hr
      cases hr
    · intro w hw
      cases hw
    · intro i r hi
      cases hi
    · intro job left hactive
      cases hactive
  | append_singleton actions a ih =>
    obtain ⟨taken, h⟩ := ih
    have hcoherent := coherent_run writeDeadline drainDelay actions
    rw [run_concat, writes_concat]
    obtain ⟨hnone, hquiet⟩ | ⟨job, segment, rest, channel, harrives, hwrote⟩ :=
      wrote_cases ((start writeDeadline drainDelay).run actions) a
    · rw [hnone, List.append_nil]
      exact h.happened hcoherent (happened _ a) hquiet
    · rw [hwrote]
      exact ⟨taken, h.arrives hcoherent harrives⟩

/-- The writes of a job fit its outcome, whether it was taken from the queue or not. -/
theorem Ledger.wrote {active : Option (Nat × List (List UInt8))} (h : Ledger s log taken active)
    {job : Nat} {r : Standing} (hr : s.standings[job]? = some r) :
    r.Wrote (writesOf log job) := by
  by_cases htaken : job < taken
  · by_cases hactive : ∃ left, active = some (job, left)
    · obtain ⟨left, hactive⟩ := hactive
      obtain ⟨-, order, hjob, hprints, -⟩ := h.printing job left hactive
      rw [hjob] at hr
      cases hr
      exact .inr ⟨_, hprints, List.prefix_append _ _⟩
    · exact h.settled job r htaken (fun left heq => hactive ⟨left, heq⟩) hr
  · have hle := Nat.not_lt.1 htaken
    rw [Standing.Wrote, h.waiting job r hle hr]
    exact .inl (writesOf_eq_nil fun w hw => Nat.lt_of_lt_of_le (h.ordered.1 w hw) hle)

/-- The deliveries of a run are the writes of its jobs, job by job in the order in which they were
accepted, and those of each job are the first segments of what it `Prints` under the configuration
it was accepted under, as far as its outcome says. -/
theorem wire_eq_jobs (actions : List Action) :
    ((start writeDeadline drainDelay).run actions).link.deliveries =
        ((start writeDeadline drainDelay).writes actions).map Write.delivery ∧
      (start writeDeadline drainDelay).writes actions =
        (List.range ((start writeDeadline drainDelay).run actions).jobs.length).flatMap
          (writesOf ((start writeDeadline drainDelay).writes actions)) ∧
      ∀ i j, ((start writeDeadline drainDelay).run actions).jobs[i]? = some j →
        (start writeDeadline drainDelay).Accepted actions i j.order ∧
        j.standing.Wrote (writesOf ((start writeDeadline drainDelay).writes actions) i) := by
  obtain ⟨taken, h⟩ := ledger_run writeDeadline drainDelay actions
  refine ⟨?_, ?_, ?_⟩
  · rw [deliveries_run]
    rfl
  · have hle := h.le_length
    rw [standings_length] at hle
    exact (h.ordered.mono hle).2
  · intro i j hjob
    constructor
    · refine accepted_of_orders rfl ?_
      rw [orders, List.getElem?_map, hjob, Option.map_some]
    · refine h.wrote ?_
      rw [standings, List.getElem?_map, hjob, Option.map_some]

end ReceiptPrinter.Spooler

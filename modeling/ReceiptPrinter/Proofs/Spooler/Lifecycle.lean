import ReceiptPrinter.Proofs.Spooler.JobStep
import ReceiptPrinter.Spooler.Session

/-!
# Lives of jobs

A job waits in the queue until the worker takes it; it is then printed, refused or skipped, or it is
left over when the worker stops. In every run the place, the phase and the outcome of a job go
together (`Fate`), and an outcome that was given stays. What deals with a job leaves all but jobs
and queue `Untouched`, unless the job has `Begun`.
-/

namespace ReceiptPrinter.Spooler

variable {s s' : Spooler} {log : List Write} {taken : Nat} {a : Action} {job : Nat} {j j' : Job}

/-! ### Logs -/

/-- What `log` says about the actions of a run, in order. -/
def history {α : Type} (log : Spooler → Action → List α) (s : Spooler) : List Action → List α
  | [] => []
  | a :: actions => log s a ++ history log (s.act a) actions

theorem history_append {α : Type} (log : Spooler → Action → List α) (s : Spooler)
    (actions more : List Action) : history log s (actions ++ more) =
      history log s actions ++ history log (s.run actions) more := by
  induction actions generalizing s with
  | nil => rfl
  | cons a actions ih =>
    rw [List.cons_append, history, ih, history, List.append_assoc]
    rfl

theorem history_concat {α : Type} (log : Spooler → Action → List α) (s : Spooler)
    (actions : List Action) (a : Action) :
    history log s (actions ++ [a]) = history log s actions ++ log (s.run actions) a := by
  rw [history_append, history, history, List.append_nil]

/-- The result that an answer has come to, if it has. -/
def result? (s : Spooler) (answer : Answer) : Option PrintResult :=
  ({ spooler := s } : Session).result? answer

theorem result?_done (s : Spooler) (result : PrintResult) :
    s.result? (.done result) = some result := rfl

theorem result?_ticket (s : Spooler) (ticket : Nat) :
    s.result? (.ticket ticket) = s.tickets[ticket]?.join := rfl

/-! ### Jobs that have not ended -/

/-- Whether jobs that wait or are printed have no outcome, and none is in both places. -/
structure Pending (s : Spooler) : Prop where
  queued : ∀ job, .print job ∈ s.queue → ∃ j, s.jobs[job]? = some j ∧ j.outcome = none
  active : ∀ job, s.activity.job? = some job →
    .print job ∉ s.queue ∧ ∃ j, s.jobs[job]? = some j ∧ j.outcome = none

theorem exists_job_of_standing {r : Standing} (h : s.standings[job]? = some r) :
    ∃ j, s.jobs[job]? = some j ∧ j.standing = r := by
  rw [standings, List.getElem?_map] at h
  exact Option.map_eq_some_iff.1 h

theorem exists_progress_of_job (h : s.activity.job? = some job) :
    ∃ left, s.activity.progress? = some (job, left) := by
  cases hact : s.activity <;> simp_all [Activity.job?, Activity.progress?]

theorem Ledger.pending (h : Ledger s log taken s.activity.progress?) : s.Pending where
  queued := by
    intro job hmem
    have hjob : job ∈ s.queue.filterMap Request.job? := List.mem_filterMap.2 ⟨_, hmem, rfl⟩
    rw [h.queued, List.mem_range'_1] at hjob
    have hlt : job < s.standings.length := by omega
    have hstanding := List.getElem?_eq_getElem hlt
    obtain ⟨j, hj, hout⟩ := exists_job_of_standing hstanding
    exact ⟨j, hj, (congrArg Standing.outcome hout).trans (h.waiting job _ hjob.1 hstanding)⟩
  active := by
    intro job hactive
    obtain ⟨left, hprogress⟩ := exists_progress_of_job hactive
    obtain ⟨htaken, order, hstanding, -⟩ := h.printing job left hprogress
    obtain ⟨j, hj, hout⟩ := exists_job_of_standing hstanding
    refine ⟨fun hmem => ?_, j, hj, congrArg Standing.outcome hout⟩
    have hjob : job ∈ s.queue.filterMap Request.job? := List.mem_filterMap.2 ⟨_, hmem, rfl⟩
    rw [h.queued, List.mem_range'_1] at hjob
    omega

theorem pending_run (writeDeadline drainDelay : Nat) (actions : List Action) :
    ((start writeDeadline drainDelay).run actions).Pending := by
  obtain ⟨taken, h⟩ := ledger_run writeDeadline drainDelay actions
  exact h.pending

theorem Pending.next (h : s.Pending) (hnext : s.nextJob? = some job) :
    ∃ j, s.jobs[job]? = some j ∧ j.outcome = none := by
  obtain ⟨-, queue, hqueue⟩ := nextJob?_eq_some hnext
  exact h.queued job (by simp [hqueue])

theorem outcome_of_exists (hjob : s.jobs[job]? = some j)
    (h : ∃ j, s.jobs[job]? = some j ∧ j.outcome = none) : j.outcome = none := by
  obtain ⟨j', hj', hout⟩ := h
  rw [hjob] at hj'
  cases hj'
  exact hout

/-- An outcome that was given stays. -/
theorem Moved.outcome_stays (h : Moved s s' a job j j') (hp : s.Pending)
    (hjob : s.jobs[job]? = some j) {r : PrintResult} (hr : j.outcome = some r) :
    j'.outcome = some r := by
  have hended : ¬∃ j, s.jobs[job]? = some j ∧ j.outcome = none := fun h => by
    rw [outcome_of_exists hjob h] at hr
    cases hr
  cases h with
  | kept => exact hr
  | cancelled => exact hr
  | skipped _ hnext => exact absurd (hp.next hnext) hended
  | refused _ _ hnext => exact absurd (hp.next hnext) hended
  | started _ hnext => exact absurd (hp.next hnext) hended
  | rushed _ _ hnext => exact absurd (hp.next hnext) hended
  | ended _ _ hactive => exact absurd (hp.active job hactive).2 hended
  | abandoned _ _ hqueue => exact absurd (hp.queued job hqueue) hended

/-! ### Where a job stands -/

/-- Where a job stands, with its phase and its outcome. -/
inductive Fate (s : Spooler) (job : Nat) (j : Job) : Prop
  | queued (hqueue : .print job ∈ s.queue) (hphase : j.phase ≠ .started) (hnone : j.outcome = none)
  | printing (hactive : s.activity.job? = some job) (hphase : j.phase = .started)
    (hnone : j.outcome = none)
  | printed (r : PrintResult) (hr : FromPrinter r) (hphase : j.phase = .started)
    (hsome : j.outcome = some r)
  | refused (e : PrintError) (he : (∃ fault, e = .encoding fault) ∨ ∃ stage, e = .notReady stage)
    (hphase : j.phase = .started) (hsome : j.outcome = some (.error e))
  | skipped (hphase : j.phase = .cancelled) (hsome : j.outcome = some (.error .cancelled))
  | abandoned (hstopped : s.activity = .stopped) (hphase : j.phase ≠ .started)
    (hsome : j.outcome = some (.error .closed))

theorem Refuses.cases {e : PrintError} (h : s.Refuses j e) :
    (∃ fault, e = .encoding fault) ∨ ∃ stage, e = .notReady stage := by
  obtain ⟨fault, -, rfl⟩ | ⟨segments, -, -, rfl⟩ := h
  · exact .inl ⟨fault, rfl⟩
  · exact .inr ⟨s.stage, rfl⟩

theorem Fate.phase_of_queued (h : Fate s job j) (hp : s.Pending) (hjob : s.jobs[job]? = some j)
    (hqueue : .print job ∈ s.queue) : j.phase ≠ .started := by
  have hnone := outcome_of_exists hjob (hp.queued job hqueue)
  cases h with
  | queued _ hphase => exact hphase
  | printing hactive => exact absurd hqueue (hp.active job hactive).1
  | printed r _ _ hsome => simp [hnone] at hsome
  | refused e _ _ hsome => simp [hnone] at hsome
  | skipped _ hsome => simp [hnone] at hsome
  | abandoned _ _ hsome => simp [hnone] at hsome

theorem Fate.phase_of_active (h : Fate s job j) (hp : s.Pending) (hjob : s.jobs[job]? = some j)
    (hactive : s.activity.job? = some job) : j.phase = .started := by
  obtain ⟨hnot, hnone⟩ := hp.active job hactive
  have hnone := outcome_of_exists hjob hnone
  cases h with
  | queued hqueue => exact absurd hqueue hnot
  | printing _ hphase => exact hphase
  | printed r _ hphase => exact hphase
  | refused e _ hphase => exact hphase
  | skipped _ hsome => simp [hnone] at hsome
  | abandoned _ _ hsome => simp [hnone] at hsome

theorem Moved.fate (h : Moved s s' a job j j') (hp : s.Pending) (hjob : s.jobs[job]? = some j)
    (hf : Fate s job j) : Fate s' job j' := by
  cases h with
  | kept _ _ hqueue hactive hstopped =>
    cases hf with
    | queued hmem hphase hnone => exact .queued (hqueue hmem) hphase hnone
    | printing hact hphase hnone => exact .printing (hactive hact) hphase hnone
    | printed r hr hphase hsome => exact .printed r hr hphase hsome
    | refused e he hphase hsome => exact .refused e he hphase hsome
    | skipped hphase hsome => exact .skipped hphase hsome
    | abandoned hstop hphase hsome => exact .abandoned (hstopped hstop) hphase hsome
  | cancelled _ hphase hqueue hactivity =>
    cases hf with
    | queued hmem _ hnone => exact .queued (hqueue ▸ hmem) (by simp) hnone
    | printing _ hstarted => simp [hphase] at hstarted
    | printed r _ hstarted => simp [hphase] at hstarted
    | refused e _ hstarted => simp [hphase] at hstarted
    | skipped hcancelled => simp [hphase] at hcancelled
    | abandoned hstop _ hsome => exact .abandoned (hactivity ▸ hstop) (by simp) hsome
  | skipped _ hnext hphase =>
    obtain ⟨-, queue, hqueue⟩ := nextJob?_eq_some hnext
    have hnot := hf.phase_of_queued hp hjob (by simp [hqueue])
    refine .skipped ?_ rfl
    cases hj : j.phase with
    | queued => exact absurd hj hphase
    | started => exact absurd hj hnot
    | cancelled => rfl
  | refused e _ _ _ hrefuses => exact .refused e hrefuses.cases rfl rfl
  | started _ hnext _ _ hactive =>
    have hnone := outcome_of_exists hjob (hp.next hnext)
    exact .printing hactive rfl hnone
  | rushed r _ _ _ _ hr => exact .printed r hr rfl rfl
  | ended r _ hactive hr => exact .printed r hr (hf.phase_of_active hp hjob hactive) rfl
  | abandoned _ _ hqueue hstopped =>
    exact .abandoned hstopped (hf.phase_of_queued hp hjob hqueue) rfl

theorem Called.new_job {c : Call} {answer : Answer} (h : Called s c answer s')
    (hnew : s.jobs[job]? = none) (hjob : s'.jobs[job]? = some j) :
    answer = .job job ∧ .print job ∈ s'.queue ∧ j.phase = .queued ∧ j.outcome = none := by
  cases h with
  | cancelled i => simp [updateJob, List.getElem?_modify, hnew] at hjob
  | connectClosed =>
    rw [enter_eq, enter_eq] at hjob
    simp [hnew] at hjob
  | accepted body config =>
    have hle := List.getElem?_eq_none_iff.1 hnew
    have hlast : job = s.jobs.length := by
      have hlt := (List.getElem?_eq_some_iff.1 hjob).1
      rw [List.length_append, List.length_singleton] at hlt
      omega
    subst hlast
    rw [List.getElem?_concat_length] at hjob
    cases hjob
    exact ⟨rfl, by simp, rfl, rfl⟩
  | _ => simp [hnew] at hjob

/-- A job that is new after an action was accepted by a call, and waits. -/
theorem new_job (hnew : s.jobs[job]? = none) (hjob : (s.act a).jobs[job]? = some j) :
    (∃ c, a = .call c ∧ (s.call c).1 = .job job) ∧ .print job ∈ (s.act a).queue ∧
      j.phase = .queued ∧ j.outcome = none := by
  by_cases ha : ∃ c, a = .call c
  · obtain ⟨c, rfl⟩ := ha
    obtain ⟨hanswer, hrest⟩ := (called s c).new_job hnew hjob
    exact ⟨⟨c, rfl, hanswer⟩, hrest⟩
  · have horders := (happened s a).orders fun c hc => ha ⟨c, hc⟩
    have hlength : (s.act a).jobs.length = s.jobs.length := by
      have hlen := congrArg List.length horders
      rwa [orders, orders, List.length_map, List.length_map] at hlen
    have hlt := (List.getElem?_eq_some_iff.1 hjob).1
    have hle := List.getElem?_eq_none_iff.1 hnew
    omega

variable {writeDeadline drainDelay : Nat} {actions : List Action}

/-- In every run place, phase and outcome of a job go together. -/
theorem fate_run (h : ((start writeDeadline drainDelay).run actions).jobs[job]? = some j) :
    Fate ((start writeDeadline drainDelay).run actions) job j := by
  induction actions using List.reverseRecOn generalizing j with
  | nil => simp [run, start] at h
  | append_singleton actions a ih =>
    rw [run_concat] at h ⊢
    -- the last action has accepted the job or moved it
    cases hold : ((start writeDeadline drainDelay).run actions).jobs[job]? with
    | none =>
      obtain ⟨-, hqueue, hphase, hnone⟩ := new_job hold h
      exact .queued hqueue (by simp [hphase]) hnone
    | some j₀ =>
      obtain ⟨j', hj', hmoved⟩ := moved a hold
      rw [h] at hj'
      cases hj'
      exact hmoved.fate (pending_run writeDeadline drainDelay actions) hold (ih hold)

/-- A job has no outcome exactly while it waits or is printed. -/
theorem outcome_eq_none_iff
    (h : ((start writeDeadline drainDelay).run actions).jobs[job]? = some j) :
    j.outcome = none ↔ .print job ∈ ((start writeDeadline drainDelay).run actions).queue ∨
      ((start writeDeadline drainDelay).run actions).activity.job? = some job := by
  have hp := pending_run writeDeadline drainDelay actions
  constructor
  · intro hnone
    cases fate_run h with
    | queued hqueue => exact .inl hqueue
    | printing hactive => exact .inr hactive
    | printed r _ _ hsome => simp [hnone] at hsome
    | refused e _ _ hsome => simp [hnone] at hsome
    | skipped _ hsome => simp [hnone] at hsome
    | abandoned _ _ hsome => simp [hnone] at hsome
  · rintro (hqueue | hactive)
    · exact outcome_of_exists h (hp.queued job hqueue)
    · exact outcome_of_exists h (hp.active job hactive).2

/-- A job keeps its outcome whatever happens after. -/
theorem outcome_run (h : ((start writeDeadline drainDelay).run actions).jobs[job]? = some j)
    (more : List Action) :
    ∃ j', ((start writeDeadline drainDelay).run (actions ++ more)).jobs[job]? = some j' ∧
      ∀ r, j.outcome = some r → j'.outcome = some r := by
  induction more using List.reverseRecOn with
  | nil => exact ⟨j, by rwa [List.append_nil], fun _ => id⟩
  | append_singleton more a ih =>
    obtain ⟨j₁, hj₁, hstays⟩ := ih
    obtain ⟨j₂, hj₂, hmoved⟩ := moved a hj₁
    refine ⟨j₂, ?_, fun r hr => ?_⟩
    · rw [← List.append_assoc, run_concat, hj₂]
    · exact hmoved.outcome_stays (pending_run writeDeadline drainDelay _) hj₁ (hstays r hr)

/-! ### The end of the worker -/

/-- Whether a worker that has stopped has left nothing in the queue and no connection in use. -/
structure Halted (s : Spooler) : Prop where
  queue : s.activity = .stopped → s.queue = []
  stage : s.activity = .stopped → s.stage = .idle ∨ s.stage = .faulted

theorem not_stopped_of_open (h : s.isClosed = false) : s.activity ≠ .stopped := by
  intro hact
  rw [isClosed, hact] at h
  cases h

theorem Halted.of_running (h : s.activity ≠ .stopped) : s.Halted :=
  ⟨fun hact => absurd hact h, fun hact => absurd hact h⟩

theorem Halted.called (h : s.Halted) {c : Call} {answer : Answer} (hc : Called s c answer s') :
    s'.Halted := by
  cases hc with
  | configured options config hconfig hopen => exact .of_running (not_stopped_of_open hopen)
  | connecting config hconfig hstage hopen => exact .of_running (not_stopped_of_open hopen)
  | disconnecting hopen => exact .of_running (not_stopped_of_open hopen)
  | accepted body config buffer hstage hconfig hopen =>
    exact .of_running (not_stopped_of_open hopen)
  | connectClosed =>
    rw [enter_eq, enter_eq]
    exact ⟨h.queue, fun _ => .inr rfl⟩
  | _ => exact ⟨h.queue, h.stage⟩

theorem Resumed.running {i : Nat} {segments : List (List UInt8)} (h : Resumed s i segments s') :
    s'.activity ≠ .stopped := by
  cases h with
  | completed => simp [completeJob_eq]
  | failed => simp [faultJob_eq]
  | _ => simp

theorem Worked.running (h : Worked s s') : s'.activity ≠ .stopped := by
  cases h with
  | started i ji segments queue _ hact hqueue hi hphase hsegments hstage hconnected hr =>
    exact hr.running
  | wrote i segment rest due channel _ hact hlive hfault hr => exact hr.running
  | opening config ticket queue => simp [startConnect_eq]
  | refused i ji e queue hact => simp [finishJob_eq, startJob, hact]
  | writeFailed => simp [faultJob_eq]
  | flushFailed => simp [faultJob_eq]
  | drained => simp [completeJob_eq]
  | _ => simp_all

theorem Halted.happened (h : s.Halted) (ha : Happened s a s') : s'.Halted := by
  cases ha with
  | call c answer _ hc => exact h.called hc
  | work _ hw => exact .of_running hw.running
  | stop => exact ⟨fun _ => rfl, fun _ => .inl rfl⟩
  | _ => exact ⟨h.queue, h.stage⟩

theorem halted_run (writeDeadline drainDelay : Nat) (actions : List Action) :
    ((start writeDeadline drainDelay).run actions).Halted :=
  run_induction (.of_running (by simp [start])) (fun _ _ _ h ha => h.happened ha) actions

/-! ### Jobs that have begun -/

/-- Whether `job` is printed or was ended by the printer. -/
def Begun (s : Spooler) (job : Nat) : Prop :=
  s.activity.job? = some job ∨
    ∃ j r, s.jobs[job]? = some j ∧ j.outcome = some r ∧ FromPrinter r

/-- A job that has `Begun` goes on, or ends as the printer lets it. -/
theorem Begun.act (h : s.Begun job) (hp : s.Pending) (a : Action) : (s.act a).Begun job := by
  obtain hactive | ⟨j, r, hjob, hsome, hr⟩ := h
  · obtain ⟨hnot, j, hjob, -⟩ := hp.active job hactive
    have hwaiting : s.activity ≠ .waiting := fun hact => by simp [hact, Activity.job?] at hactive
    have hnext : s.nextJob? ≠ some job := by simp [nextJob?_of_busy hwaiting]
    obtain ⟨j', hj', hmoved⟩ := moved a hjob
    cases hmoved with
    | kept _ _ _ hkept => exact .inl (hkept hactive)
    | cancelled _ _ _ hactivity => exact .inl (by rw [hactivity, hactive])
    | skipped _ h => exact absurd h hnext
    | refused _ _ h => exact absurd h hnext
    | started _ h => exact absurd h hnext
    | rushed _ _ h => exact absurd h hnext
    | ended r _ _ hr => exact .inr ⟨_, r, hj', rfl, hr⟩
    | abandoned _ h => exact absurd h hwaiting
  · obtain ⟨j', hj', hmoved⟩ := moved a hjob
    exact .inr ⟨j', r, hj', hmoved.outcome_stays hp hjob hsome, hr⟩

theorem Begun.run (h : ((start writeDeadline drainDelay).run actions).Begun job)
    (more : List Action) : ((start writeDeadline drainDelay).run (actions ++ more)).Begun job := by
  induction more using List.reverseRecOn with
  | nil => rwa [List.append_nil]
  | append_singleton more a ih =>
    rw [← List.append_assoc, run_concat]
    exact ih.act (pending_run writeDeadline drainDelay _) a

theorem Called.untouched_of_job {c : Call} (h : Called s c (.job job) s') : s.Untouched s' := by
  cases h with
  | accepted => exact ⟨rfl, rfl, rfl, rfl, rfl⟩

theorem untouched_cancel (s : Spooler) (job : Nat) : s.Untouched (s.cancel job).2 := by
  unfold cancel
  split <;> exact ⟨rfl, rfl, rfl, rfl, rfl⟩

/-- What deals with a job leaves all else `Untouched`, unless the job has begun by then. -/
theorem untouched_or_begun (hp : s.Pending) (h : s.Concerns job a) :
    s.Untouched (s.act a) ∨ (s.act a).Begun job := by
  cases a with
  | call c =>
    refine .inl ?_
    obtain hanswer | rfl := h
    · exact (hanswer ▸ called s c : Called s c (.job job) _).untouched_of_job
    · exact untouched_cancel s job
  | work =>
    have hjob : ∃ j, s.jobs[job]? = some j := by
      obtain hnext | hactive := h
      · obtain ⟨j, hj, -⟩ := hp.next hnext
        exact ⟨j, hj⟩
      · obtain ⟨-, j, hj, -⟩ := hp.active job hactive
        exact ⟨j, hj⟩
    obtain ⟨j, hj⟩ := hjob
    obtain ⟨j', hj', hmoved⟩ := moved .work hj
    cases hmoved with
    | kept _ hnext _ hkept => exact .inr (.inl (hkept (h.resolve_left (hnext rfl))))
    | cancelled ha => cases ha
    | skipped _ _ _ huntouched => exact .inl huntouched
    | refused _ _ _ _ _ huntouched => exact .inl huntouched
    | started _ _ _ _ hactive => exact .inr (.inl hactive)
    | rushed r _ _ _ _ hr => exact .inr (.inr ⟨_, r, hj', rfl, hr⟩)
    | ended r _ _ hr => exact .inr (.inr ⟨_, r, hj', rfl, hr⟩)
    | abandoned ha => cases ha
  | stop => exact h.elim
  | change => exact h.elim
  | advance => exact h.elim

/-- What deals with a job that has not begun by the end of a run leaves all else `Untouched`. -/
theorem untouched_of_not_begun (h : ¬((start writeDeadline drainDelay).run actions).Begun job)
    {before : List Action} (hbefore : before ++ [a] <+: actions)
    (hconcerns : ((start writeDeadline drainDelay).run before).Concerns job a) :
    ((start writeDeadline drainDelay).run before).Untouched
      (((start writeDeadline drainDelay).run before).act a) := by
  obtain ⟨after, rfl⟩ := hbefore
  have hpending := pending_run writeDeadline drainDelay before
  refine (untouched_or_begun hpending hconcerns).resolve_right ?_
  intro hbegun
  rw [← run_concat] at hbegun
  exact h (hbegun.run after)

/-- Bytes arrive only for jobs that have `Begun`. -/
theorem begun_of_mem_writes {w : Write} (h : w ∈ (start writeDeadline drainDelay).writes actions) :
    ((start writeDeadline drainDelay).run actions).Begun w.job := by
  induction actions using List.reverseRecOn with
  | nil => cases h
  | append_singleton actions a ih =>
    have hp := pending_run writeDeadline drainDelay actions
    rw [run_concat]
    rw [writes_concat] at h
    rcases List.mem_append.1 h with h | h
    · exact (ih h).act hp a
    · obtain ⟨hnone, -⟩ | ⟨i, segment, rest, channel, harrives, hwrote⟩ :=
        wrote_cases ((start writeDeadline drainDelay).run actions) a
      · rw [hnone] at h
        cases h
      · obtain ⟨due, hact⟩ := harrives.writing
        rw [hwrote, List.mem_singleton] at h
        refine Begun.act (.inl ?_) hp a
        rw [h, hact]
        rfl

theorem writesOf_of_not_begun (h : ¬((start writeDeadline drainDelay).run actions).Begun job) :
    writesOf ((start writeDeadline drainDelay).writes actions) job = [] := by
  refine List.filter_eq_nil_iff.2 fun w hw heq => h ?_
  rw [← beq_iff_eq.1 heq]
  exact begun_of_mem_writes hw

/-- A job that has begun was started. -/
theorem phase_of_begun (h : ((start writeDeadline drainDelay).run actions).Begun job)
    (hjob : ((start writeDeadline drainDelay).run actions).jobs[job]? = some j) :
    j.phase = .started := by
  have hf := fate_run hjob
  obtain hactive | ⟨j', r, hj', hsome, hr⟩ := h
  · exact hf.phase_of_active (pending_run writeDeadline drainDelay actions) hjob hactive
  · rw [hjob] at hj'
    cases hj'
    cases hf with
    | queued _ _ hnone => simp [hnone] at hsome
    | printing _ hphase => exact hphase
    | printed _ _ hphase => exact hphase
    | refused _ _ hphase => exact hphase
    | skipped _ hsome' =>
      rw [hsome'] at hsome
      cases hsome
      rcases hr with hr | ⟨e, hr⟩ <;> cases hr
    | abandoned _ _ hsome' =>
      rw [hsome'] at hsome
      cases hsome
      rcases hr with hr | ⟨e, hr⟩ <;> cases hr

/-- Actions after which a spooler is ready. -/
def untilReady : List Action :=
  [.call (.configure { host := some "a".toList }), .work, .call .connect, .work, .work]

end ReceiptPrinter.Spooler

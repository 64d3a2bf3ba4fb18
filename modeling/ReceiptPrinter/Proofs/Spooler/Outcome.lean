import ReceiptPrinter.Proofs.Spooler.Lifecycle

/-!
# Outcomes of jobs

The worker starts a job or a call cancels it, whichever comes first. `EndsOnce`: a job that was
accepted has an outcome as soon as it neither waits nor is printed, and no later than the worker
stops; an outcome stays; and a job that was cancelled is never printed, touches nothing but jobs and
queue, and ends as cancelled or, if the worker stops before it takes the job, as closed.
-/

namespace ReceiptPrinter

/-- What a phase tells of the starts and cancellations that have succeeded. -/
def JobPhase.decisions : JobPhase → List JobPhase
  | .queued => []
  | phase => [phase]

theorem JobPhase.length_decisions (phase : JobPhase) : phase.decisions.length ≤ 1 := by
  cases phase <;> simp [decisions]

theorem JobPhase.cancelled_mem_decisions {phase : JobPhase} :
    .cancelled ∈ phase.decisions ↔ phase = .cancelled := by
  cases phase <;> simp [decisions]

theorem FromPrinter.ne_closed {r : PrintResult} (h : FromPrinter r) : r ≠ .error .closed := by
  obtain rfl | ⟨e, rfl⟩ := h <;> simp

namespace Spooler

variable {s s' : Spooler} {a : Action} {job : Nat} {j j' : Job}

/-! ### Starts and cancellations -/

/-- Whether an action starts or cancels `job`: the worker takes it from the queue and is the first
to start it, or a call to cancel it is answered with success. -/
def decisions (job : Nat) (s : Spooler) : Action → List JobPhase
  | .call (.cancel i) =>
    match s.cancel i with
    | (.cancelled true, _) => if i = job then [.cancelled] else []
    | _ => []
  | .work => if s.nextJob? = some job ∧ (s.jobs[job]?).any (·.start.1) then [.started] else []
  | _ => []

theorem decisions_cancel (hjob : s.jobs[job]? = some j) :
    decisions job s (.call (.cancel job)) = if j.phase = .queued then [.cancelled] else [] := by
  have hcancel : s.cancel job = (.cancelled j.cancel.1, s.updateJob job fun j => j.cancel.2) := by
    rw [cancel, hjob]
  rw [decisions, hcancel]
  cases hphase : j.phase <;> simp [Job.cancel, hphase]

theorem decisions_cancel_other {i : Nat} (h : i ≠ job) :
    decisions job s (.call (.cancel i)) = [] := by
  simp only [decisions, if_neg h]
  split <;> rfl

theorem decisions_work (hnext : s.nextJob? = some job) (hjob : s.jobs[job]? = some j) :
    decisions job s .work = if j.phase = .queued then [.started] else [] := by
  rw [decisions, hnext, hjob]
  cases hphase : j.phase <;> simp [Job.start, hphase]

theorem decisions_work_other (h : s.nextJob? ≠ some job) : decisions job s .work = [] :=
  if_neg fun hnext => h hnext.1

theorem decisions_eq_nil (hjob : s.jobs[job]? = some j)
    (hcancel : a = .call (.cancel job) → j.phase ≠ .queued)
    (hnext : a = .work → s.nextJob? ≠ some job) : decisions job s a = [] := by
  cases a with
  | call c =>
    cases c with
    | cancel i =>
      by_cases hi : i = job
      · subst hi
        rw [decisions_cancel hjob, if_neg (hcancel rfl)]
      · exact decisions_cancel_other hi
    | _ => rfl
  | work => exact decisions_work_other (hnext rfl)
  | _ => rfl

theorem decisions_of_new (hnew : s.jobs[job]? = none) (a : Action) : decisions job s a = [] := by
  cases a with
  | call c =>
    cases c with
    | cancel i =>
      by_cases hi : i = job
      · subst hi
        rw [decisions, cancel, hnew]
      · exact decisions_cancel_other hi
    | _ => rfl
  | work => simp [decisions, hnew]
  | _ => rfl

/-- The phase of a job goes on with what an action decides about it. -/
theorem Moved.decisions (h : Moved s s' a job j j') (hjob : s.jobs[job]? = some j) :
    j'.phase.decisions = j.phase.decisions ++ decisions job s a := by
  cases h with
  | kept hcancel hnext => rw [decisions_eq_nil hjob hcancel hnext, List.append_nil]
  | cancelled ha hphase =>
    subst ha
    rw [decisions_cancel hjob, if_pos hphase, hphase]
    rfl
  | skipped ha hnext hphase =>
    subst ha
    rw [decisions_work hnext hjob, if_neg hphase, List.append_nil]
  | refused e ha hnext hphase =>
    subst ha
    rw [decisions_work hnext hjob, if_pos hphase, hphase]
    rfl
  | started ha hnext hphase =>
    subst ha
    rw [decisions_work hnext hjob, if_pos hphase, hphase]
    rfl
  | rushed r ha hnext hphase =>
    subst ha
    rw [decisions_work hnext hjob, if_pos hphase, hphase]
    rfl
  | ended r ha hactive =>
    subst ha
    have hbusy : s.activity ≠ .waiting := fun hact => by simp [hact, Activity.job?] at hactive
    rw [decisions_work_other (by simp [nextJob?_of_busy hbusy]), List.append_nil]
  | abandoned ha =>
    subst ha
    exact (List.append_nil _).symm

variable {writeDeadline drainDelay : Nat} {actions : List Action}

/-- Nothing is decided about a job that has not been accepted. -/
theorem history_decisions_of_new
    (h : ((start writeDeadline drainDelay).run actions).jobs[job]? = none) :
    history (decisions job) (start writeDeadline drainDelay) actions = [] := by
  induction actions using List.reverseRecOn with
  | nil => rfl
  | append_singleton actions a ih =>
    have hnew : ((start writeDeadline drainDelay).run actions).jobs[job]? = none := by
      refine Option.eq_none_iff_forall_ne_some.2 fun j hj => ?_
      obtain ⟨j', hj', -⟩ := moved a hj
      rw [run_concat, hj'] at h
      cases h
    rw [history_concat, ih hnew, decisions_of_new hnew, List.append_nil]

/-- The phase of a job is all that was decided about it. -/
theorem history_decisions
    (h : ((start writeDeadline drainDelay).run actions).jobs[job]? = some j) :
    history (decisions job) (start writeDeadline drainDelay) actions = j.phase.decisions := by
  induction actions using List.reverseRecOn generalizing j with
  | nil => simp [run, start] at h
  | append_singleton actions a ih =>
    rw [run_concat] at h
    rw [history_concat]
    cases hold : ((start writeDeadline drainDelay).run actions).jobs[job]? with
    | none =>
      obtain ⟨-, -, hphase, -⟩ := new_job hold h
      rw [history_decisions_of_new hold, decisions_of_new hold, hphase]
      rfl
    | some j₀ =>
      obtain ⟨j', hj', hmoved⟩ := moved a hold
      rw [h] at hj'
      cases hj'
      rw [ih hold, hmoved.decisions hold]

/-! ### Jobs that are left over -/

/-- Whether `job` still waits when the worker stops. -/
def LeftOver (s : Spooler) (actions : List Action) (job : Nat) : Prop :=
  ∃ before after, actions = before ++ .stop :: after ∧ (s.run before).stop.isSome = true ∧
    .print job ∈ (s.run before).queue

theorem LeftOver.append (h : LeftOver s actions job) (more : List Action) :
    LeftOver s (actions ++ more) job := by
  obtain ⟨before, after, rfl, hstop⟩ := h
  exact ⟨before, after ++ more, by simp, hstop⟩

/-- An action closes a job only if the job waits and the worker stops by it. -/
theorem Moved.closed_cases (h : Moved s s' a job j j') (hs' : s' = s.act a)
    (hclosed : j'.outcome = some (.error .closed)) :
    j.outcome = some (.error .closed) ∨
      a = .stop ∧ s.stop.isSome = true ∧ .print job ∈ s.queue := by
  cases h with
  | kept => exact .inl hclosed
  | cancelled => exact .inl hclosed
  | started => exact .inl hclosed
  | skipped => simp at hclosed
  | refused e _ _ _ hrefuses =>
    obtain ⟨fault, rfl⟩ | ⟨stage, rfl⟩ := hrefuses.cases <;> simp at hclosed
  | rushed r _ _ _ _ hr => exact absurd (Option.some.inj hclosed) hr.ne_closed
  | ended r _ _ hr => exact absurd (Option.some.inj hclosed) hr.ne_closed
  | abandoned ha hact hqueue hstopped =>
    refine .inr ⟨ha, ?_, hqueue⟩
    cases hstop : s.stop with
    | some _ => rfl
    | none =>
      rw [hs', ha, act, hstop] at hstopped
      exact absurd (hact.symm.trans hstopped) (by simp)

/-- A job ends as `closed` exactly if it is `LeftOver` when the worker stops. -/
theorem closed_iff_leftOver
    (h : ((start writeDeadline drainDelay).run actions).jobs[job]? = some j) :
    j.outcome = some (.error .closed) ↔ LeftOver (start writeDeadline drainDelay) actions job := by
  constructor
  · intro hclosed
    induction actions using List.reverseRecOn generalizing j with
    | nil => simp [run, start] at h
    | append_singleton actions a ih =>
      rw [run_concat] at h
      cases hold : ((start writeDeadline drainDelay).run actions).jobs[job]? with
      | none =>
        obtain ⟨-, -, -, hnone⟩ := new_job hold h
        rw [hnone] at hclosed
        cases hclosed
      | some j₀ =>
        obtain ⟨j', hj', hmoved⟩ := moved a hold
        rw [h] at hj'
        cases hj'
        obtain hbefore | ⟨rfl, hstop, hqueue⟩ := hmoved.closed_cases rfl hclosed
        · exact (ih hold hbefore).append [a]
        · exact ⟨actions, [], rfl, hstop, hqueue⟩
  · rintro ⟨before, after, rfl, hstop, hqueue⟩
    -- the job is closed by the stop and stays so
    obtain ⟨j₀, hj₀, -⟩ := (pending_run writeDeadline drainDelay before).queued job hqueue
    obtain ⟨s', hs'⟩ := Option.isSome_iff_exists.1 hstop
    have hact := act_stop_of_some hs'
    obtain ⟨-, -, rfl⟩ := stop_eq_some_iff.1 hs'
    obtain ⟨hnot, -⟩ | ⟨-, hclosed⟩ :=
      getElem?_abandonedJobs ((start writeDeadline drainDelay).run before).queue hj₀
    · exact absurd hqueue hnot
    · have hstopped : ((start writeDeadline drainDelay).run (before ++ [.stop])).jobs[job]? =
          some { j₀ with outcome := some (.error .closed) } := by
        rw [run_concat, hact, hclosed]
      obtain ⟨j', hj', hstays⟩ := outcome_run hstopped after
      rw [List.append_assoc, List.singleton_append, h] at hj'
      cases hj'
      exact hstays _ rfl

/-! ### Ends -/

/-- How a job ends, at most once, in a run. -/
structure EndsOnce (s : Spooler) (actions : List Action) (job : Nat) (j : Job) : Prop where
  unended_iff : j.outcome = none ↔
    .print job ∈ (s.run actions).queue ∨ (s.run actions).activity.job? = some job
  ended_of_stopped : (s.run actions).activity = .stopped → j.outcome ≠ none
  stays : ∀ r, j.outcome = some r → ∀ more, ∃ j', (s.run (actions ++ more)).jobs[job]? = some j' ∧
    j'.outcome = some r
  decided_once : (history (decisions job) s actions).length ≤ 1
  closed_iff : j.outcome = some (.error .closed) ↔ LeftOver s actions job
  cancelled : .cancelled ∈ history (decisions job) s actions →
    writesOf (s.writes actions) job = [] ∧
    (∀ before a, before ++ [a] <+: actions → (s.run before).Concerns job a →
      (s.run before).Untouched ((s.run before).act a)) ∧
    (.print job ∈ (s.run actions).queue ∨ j.outcome = some (.error .cancelled) ∨
      j.outcome = some (.error .closed))
  not_cancelled : ∀ r, j.outcome = some r → r ≠ .error .cancelled → r ≠ .error .closed →
    ∀ more, .cancelled ∉ history (decisions job) s (actions ++ more)

theorem Fate.phase_of_outcome {r : PrintResult} (h : Fate s job j) (hr : j.outcome = some r)
    (hcancelled : r ≠ .error .cancelled) (hclosed : r ≠ .error .closed) : j.phase = .started := by
  cases h with
  | queued _ _ hnone => simp [hnone] at hr
  | printing _ hphase => exact hphase
  | printed _ _ hphase => exact hphase
  | refused _ _ hphase => exact hphase
  | skipped _ hsome => exact absurd (Option.some.inj (hr.symm.trans hsome)) hcancelled
  | abandoned _ _ hsome => exact absurd (Option.some.inj (hr.symm.trans hsome)) hclosed

/-- Where a job stands that was cancelled. -/
theorem Fate.of_cancelled (h : Fate s job j) (hphase : j.phase = .cancelled) :
    .print job ∈ s.queue ∨ j.outcome = some (.error .cancelled) ∨
      j.outcome = some (.error .closed) := by
  cases h with
  | queued hqueue => exact .inl hqueue
  | skipped _ hsome => exact .inr (.inl hsome)
  | abandoned _ _ hsome => exact .inr (.inr hsome)
  | printing _ hstarted => simp [hphase] at hstarted
  | printed _ _ hstarted => simp [hphase] at hstarted
  | refused _ _ hstarted => simp [hphase] at hstarted

theorem endsOnce_of_job
    (h : ((start writeDeadline drainDelay).run actions).jobs[job]? = some j) :
    EndsOnce (start writeDeadline drainDelay) actions job j where
  unended_iff := outcome_eq_none_iff h
  ended_of_stopped := by
    intro hstopped hnone
    obtain hqueue | hactive := (outcome_eq_none_iff h).1 hnone
    · rw [(halted_run writeDeadline drainDelay actions).queue hstopped] at hqueue
      cases hqueue
    · rw [hstopped] at hactive
      cases hactive
  stays := by
    intro r hr more
    obtain ⟨j', hj', hstays⟩ := outcome_run h more
    exact ⟨j', hj', hstays r hr⟩
  decided_once := by
    rw [history_decisions h]
    exact JobPhase.length_decisions _
  closed_iff := closed_iff_leftOver h
  cancelled := by
    intro hmem
    rw [history_decisions h, JobPhase.cancelled_mem_decisions] at hmem
    have hbegun : ¬((start writeDeadline drainDelay).run actions).Begun job := by
      intro hbegun
      rw [phase_of_begun hbegun h] at hmem
      cases hmem
    exact ⟨writesOf_of_not_begun hbegun,
      fun before a hbefore hconcerns => untouched_of_not_begun hbegun hbefore hconcerns,
      (fate_run h).of_cancelled hmem⟩
  not_cancelled := by
    intro r hr hcancelled hclosed more
    obtain ⟨j', hj', hstays⟩ := outcome_run h more
    rw [history_decisions hj', JobPhase.cancelled_mem_decisions,
      (fate_run hj').phase_of_outcome (hstays r hr) hcancelled hclosed]
    simp

theorem Called.exists_job {c : Call} (h : Called s c (.job job) s') :
    ∃ j, s'.jobs[job]? = some j := by
  cases h with
  | accepted => exact ⟨_, List.getElem?_concat_length⟩

/-- Every job that a run accepts `EndsOnce`: at most once, as soon as it neither waits nor is
printed and no later than the worker stops, and it is never both started and cancelled. -/
theorem ends_once (before : List Action) (c : Call) (hcall : before ++ [.call c] <+: actions)
    (haccepted : (((start writeDeadline drainDelay).run before).call c).1 = .job job) :
    ∃ j, ((start writeDeadline drainDelay).run actions).jobs[job]? = some j ∧
      EndsOnce (start writeDeadline drainDelay) actions job j := by
  obtain ⟨after, rfl⟩ := hcall
  have hcalled := called ((start writeDeadline drainDelay).run before) c
  rw [haccepted] at hcalled
  obtain ⟨j₀, hj₀⟩ := hcalled.exists_job
  have hrun :
      ((start writeDeadline drainDelay).run (before ++ [.call c])).jobs[job]? = some j₀ := by
    rw [run_concat]
    exact hj₀
  obtain ⟨j, hj, -⟩ := outcome_run hrun after
  exact ⟨j, hj, endsOnce_of_job hj⟩

/-- A job that is cancelled while it waits is skipped. -/
theorem ends_once_cancelled :
    untilReady ++ [.call .cutPaper] <+:
      untilReady ++ [.call .cutPaper, .call (.cancel 0), .work] ∧
    (((start 1000 100).run untilReady).call .cutPaper).1 = .job 0 ∧
    ∃ j, ((start 1000 100).run
        (untilReady ++ [.call .cutPaper, .call (.cancel 0), .work])).jobs[0]? = some j ∧
      EndsOnce (start 1000 100) (untilReady ++ [.call .cutPaper, .call (.cancel 0), .work]) 0 j :=
  ⟨⟨_, rfl⟩, rfl, ends_once untilReady .cutPaper ⟨[.call (.cancel 0), .work], rfl⟩ rfl⟩

end Spooler

end ReceiptPrinter

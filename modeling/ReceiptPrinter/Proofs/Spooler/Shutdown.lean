import ReceiptPrinter.Proofs.Spooler.Outcome
import ReceiptPrinter.Proofs.Spooler.Stopping

/-!
# Shutdown

A worker that was asked to stop may still take requests from the queue before it does. A job that
had not started by then is started exactly if the worker takes it nevertheless (`TakesJob`);
otherwise nothing of it is written, and it ends as closed or cancelled. Once the worker has stopped,
the spooler is `ShutDown`: idle and disconnected for good and refuses to connect.
-/

namespace ReceiptPrinter.Spooler

variable {s s' : Spooler} {a : Action} {job : Nat} {j : Job} {writeDeadline drainDelay : Nat}

/-! ### Jobs that wait -/

theorem mem_history_iff {α : Type} {log : Spooler → Action → List α} {x : α}
    {actions : List Action} : x ∈ history log s actions ↔
      ∃ before a, before ++ [a] <+: actions ∧ x ∈ log (s.run before) a := by
  constructor
  · intro h
    induction actions generalizing s with
    | nil => cases h
    | cons a actions ih =>
      obtain hfirst | hrest := List.mem_append.1 h
      · exact ⟨[], a, List.prefix_append [a] actions, hfirst⟩
      · obtain ⟨before, b, hprefix, hmem⟩ := ih hrest
        exact ⟨a :: before, b, (List.prefix_cons_inj a).2 hprefix, hmem⟩
  · rintro ⟨before, a, ⟨after, rfl⟩, hmem⟩
    rw [history_append, history_concat]
    exact List.mem_append_left _ (List.mem_append_right _ hmem)

/-- Whether the worker takes `job` next, and it was not cancelled. -/
def TakesJob (s : Spooler) (job : Nat) : Prop :=
  s.nextJob? = some job ∧ ∃ j, s.jobs[job]? = some j ∧ j.phase = .queued

theorem start_eq_true_iff : j.start.1 = true ↔ j.phase = .queued := by
  cases hphase : j.phase <;> simp [Job.start, hphase]

theorem started_mem_decisions_iff :
    .started ∈ decisions job s a ↔ a = .work ∧ s.TakesJob job := by
  cases a with
  | call c =>
    cases c with
    | cancel i =>
      rw [decisions]
      split
      · split <;> simp
      · simp
    | _ => simp [decisions]
  | work =>
    simp only [decisions, TakesJob, List.mem_ite_nil_right, List.mem_singleton, and_true, true_and,
      Option.any_eq_true, start_eq_true_iff]
  | _ => simp [decisions]

theorem JobPhase.started_mem_decisions {phase : JobPhase} :
    .started ∈ phase.decisions ↔ phase = .started := by
  cases phase <;> simp [JobPhase.decisions]

/-- A job is started exactly if the worker takes it before or after it was asked to stop. -/
theorem started_of_shutdown_iff (before after : List Action) :
    .started ∈ history (decisions job) s (before ++ .call .shutdown :: after) ↔
      .started ∈ history (decisions job) s before ∨ ∃ more, more ++ [.work] <+: after ∧
        (s.run (before ++ .call .shutdown :: more)).TakesJob job := by
  have hshutdown : decisions job (s.run before) (.call .shutdown) = [] := rfl
  have hrun : ∀ more, ((s.run before).act (.call .shutdown)).run more =
      s.run (before ++ .call .shutdown :: more) :=
    fun more => (run_append s before (.call .shutdown :: more)).symm
  rw [history_append, List.mem_append, history, hshutdown, List.nil_append]
  refine or_congr_right (mem_history_iff.trans ?_)
  simp only [started_mem_decisions_iff, hrun]
  constructor
  · rintro ⟨more, _, hprefix, rfl, htakes⟩
    exact ⟨more, hprefix, htakes⟩
  · rintro ⟨more, hprefix, htakes⟩
    exact ⟨more, .work, hprefix, rfl, htakes⟩

/-- A job that was not started writes nothing, and has ended as closed or cancelled when the worker
has stopped. -/
theorem unprinted_of_not_started {actions : List Action}
    (hjob : ((start writeDeadline drainDelay).run actions).jobs[job]? = some j)
    (h : .started ∉ history (decisions job) (start writeDeadline drainDelay) actions) :
    writesOf ((start writeDeadline drainDelay).writes actions) job = [] ∧
    (((start writeDeadline drainDelay).run actions).activity = .stopped →
      j.outcome = some (.error .closed) ∨ j.outcome = some (.error .cancelled)) := by
  have hphase : j.phase ≠ .started := by
    rw [history_decisions hjob, JobPhase.started_mem_decisions] at h
    exact h
  refine ⟨writesOf_of_not_begun fun hbegun => hphase (phase_of_begun hbegun hjob), fun hact => ?_⟩
  cases fate_run hjob with
  | queued hqueue =>
    rw [(halted_run writeDeadline drainDelay actions).queue hact] at hqueue
    cases hqueue
  | printing hactive =>
    rw [hact] at hactive
    cases hactive
  | printed r hr hstarted => exact absurd hstarted hphase
  | refused e he hstarted => exact absurd hstarted hphase
  | skipped _ hsome => exact .inr hsome
  | abandoned _ _ hsome => exact .inl hsome

/-! ### The end of the worker -/

/-- A worker that has stopped did so by a `stop` that left the spooler idle. -/
theorem exists_stop {actions : List Action}
    (h : ((start writeDeadline drainDelay).run actions).activity = .stopped) :
    ∃ before after, actions = before ++ .stop :: after ∧
      ((start writeDeadline drainDelay).run (before ++ [.stop])).activity = .stopped ∧
      ((start writeDeadline drainDelay).run (before ++ [.stop])).stage = .idle := by
  induction actions using List.reverseRecOn with
  | nil => simp [run, start] at h
  | append_singleton actions a ih =>
    by_cases hbefore : ((start writeDeadline drainDelay).run actions).activity = .stopped
    · obtain ⟨before, after, rfl, hstopped⟩ := ih hbefore
      exact ⟨before, after ++ [a], by simp, hstopped⟩
    · have hact := h
      rw [run_concat] at hact
      have hhappened := happened ((start writeDeadline drainDelay).run actions) a
      generalize hs' : ((start writeDeadline drainDelay).run actions).act a = s' at hact hhappened
      cases hhappened with
      | call c answer _ hc => exact absurd (hc.activity ▸ hact) hbefore
      | work _ hw => exact absurd hact hw.running
      | stop => exact ⟨actions, [], rfl, h, by rw [run_concat, hs']⟩
      | _ => exact absurd hact hbefore

/-- What is left for good of a spooler whose worker has stopped. -/
structure ShutDown (s : Spooler) (actions : List Action) : Prop where
  stage : (s.run actions).stage = .idle ∨ (s.run actions).stage = .faulted
  /-- From its stop on the spooler is idle until somebody calls to connect. -/
  idle : ∃ before after, actions = before ++ .stop :: after ∧
    (s.run (before ++ [.stop])).activity = .stopped ∧
    (s.run (before ++ [.stop])).stage = .idle ∧
    (.call .connect ∉ after → (s.run actions).stage = .idle)
  disconnected : (s.run actions).connection.state = .disconnected ∧
    (s.run actions).connection.channel = none
  handles : (s.run actions).link.openHandles = 0 ∧
    (s.run actions).link.connects = (s.run actions).link.disconnects
  silent : ∀ more, (s.run (actions ++ more)).activity = .stopped ∧
    s.writes (actions ++ more) = s.writes actions
  /-- A call to connect that the worker did not take is answered as closed. -/
  connects : ∀ before after ticket, actions = before ++ .call .connect :: after →
    ((s.run before).call .connect).1 = .ticket ticket →
    TakesConnect s actions ticket ∨
      (s.run actions).result? (.ticket ticket) = some (.error .closed)
  connect : ∀ config, (s.run actions).config = some config →
    ((s.run actions).call .connect).1 = .done (.error .closed) ∧
    ((s.run actions).call .connect).2.stage = .faulted
  disconnect : ((s.run actions).call .disconnect).1 = .done (.ok ())

theorem shutDown_of_stopped {actions : List Action}
    (h : ((start writeDeadline drainDelay).run actions).activity = .stopped) :
    ShutDown (start writeDeadline drainDelay) actions where
  stage := (halted_run writeDeadline drainDelay actions).stage h
  idle := by
    obtain ⟨before, after, rfl, hstopped, hidle⟩ := exists_stop h
    refine ⟨before, after, rfl, hstopped, hidle, fun hconnect => ?_⟩
    have hsplit : before ++ .stop :: after = (before ++ [.stop]) ++ after := by simp
    rw [hsplit, run_append, stage_run_of_stopped hstopped hconnect, hidle]
  disconnected := disconnected_run writeDeadline drainDelay actions h
  handles := by
    have hbalanced := (tidy_run writeDeadline drainDelay actions).balanced
    have hnone := (disconnected_run writeDeadline drainDelay actions h).2
    have hhandles := hbalanced.handles
    rw [hnone] at hhandles
    exact ⟨hhandles, by rw [hbalanced.conserved, hhandles]; rfl⟩
  silent := fun more => by
    refine ⟨?_, ?_⟩
    · rw [run_append]
      exact (rests_run h more).activity
    · rw [writes_append, writes_of_stopped h, List.append_nil]
  connects := by
    rintro before after ticket rfl hticket
    obtain ⟨config, hmem⟩ | htakes | ⟨-, hclosed⟩ := connect_run hticket after
    · rw [(halted_run writeDeadline drainDelay _).queue h] at hmem
      cases hmem
    · exact .inl htakes
    · exact .inr (by rw [result?_ticket, hclosed]; rfl)
  connect := fun config hconfig =>
    connect_of_stopped h ((halted_run writeDeadline drainDelay actions).stage h) hconfig
  disconnect := disconnect_of_stopped h

/-- Of the jobs that had not started when the worker was asked to stop, those are started that it
takes from the queue nevertheless. Of the others nothing is written, and they have ended as closed
or cancelled when the worker has stopped; then the spooler is `ShutDown` for good. -/
theorem shutdown_of_run (writeDeadline drainDelay : Nat) (before after : List Action) :
    let s := start writeDeadline drainDelay
    let actions := before ++ .call .shutdown :: after
    (∀ job, job < (s.run actions).jobs.length → .started ∉ history (decisions job) s before →
      (.started ∈ history (decisions job) s actions ↔ ∃ more, more ++ [.work] <+: after ∧
        (s.run (before ++ .call .shutdown :: more)).TakesJob job) ∧
      (.started ∉ history (decisions job) s actions →
        writesOf (s.writes actions) job = [] ∧
        ((s.run actions).activity = .stopped →
          (s.run actions).result? (.job job) = some (.error .closed) ∨
          (s.run actions).result? (.job job) = some (.error .cancelled)))) ∧
    ((s.run actions).activity = .stopped → ShutDown s actions) := by
  intro s actions
  refine ⟨fun job hlt hwaits => ⟨?_, fun hstarted => ?_⟩, shutDown_of_stopped⟩
  · rw [started_of_shutdown_iff]
    exact or_iff_right hwaits
  · have hjob := List.getElem?_eq_getElem hlt
    have hresult : (s.run actions).result? (.job job) = (s.run actions).jobs[job].outcome :=
      congrArg (Option.bind · Job.outcome) hjob
    rw [hresult]
    exact unprinted_of_not_started hjob hstarted

/-- Actions after which a job waits. -/
def untilQueued : List Action := untilReady ++ [.call .cutPaper]

/-- The worker is asked to stop and does so at once. -/
def stopAtOnce : List Action := untilQueued ++ .call .shutdown :: [.stop]

/-- A job that waits when the worker stops is not printed. -/
theorem shutdown_at_once :
    let s := start 1000 100
    0 < (s.run stopAtOnce).jobs.length ∧ .started ∉ history (decisions 0) s untilQueued ∧
      .started ∉ history (decisions 0) s stopAtOnce ∧
      (s.run stopAtOnce).activity = .stopped ∧
      writesOf (s.writes stopAtOnce) 0 = [] ∧
      ((s.run stopAtOnce).result? (.job 0) = some (.error .closed) ∨
        (s.run stopAtOnce).result? (.job 0) = some (.error .cancelled)) ∧
      ShutDown s stopAtOnce := by
  intro s
  have hlt : 0 < (s.run stopAtOnce).jobs.length := by decide +kernel
  have hbefore : .started ∉ history (decisions 0) s untilQueued := by decide +kernel
  have hstarted : .started ∉ history (decisions 0) s stopAtOnce := by decide +kernel
  have hstopped : (s.run stopAtOnce).activity = .stopped := by decide +kernel
  obtain ⟨hjobs, hend⟩ := shutdown_of_run 1000 100 untilQueued [.stop]
  obtain ⟨hwrites, hresult⟩ := (hjobs 0 hlt hbefore).2 hstarted
  exact ⟨hlt, hbefore, hstarted, hstopped, hwrites, hresult hstopped, hend hstopped⟩

/-- The worker is asked to stop and takes the job that waits before it does. -/
def stopAfterJob : List Action :=
  untilQueued ++ .call .shutdown :: [.work, .work, .work, .advance 100, .work, .stop]

/-- A job that waits when the worker is asked to stop is started and printed nevertheless. -/
theorem shutdown_after_job :
    let s := start 1000 100
    .started ∉ history (decisions 0) s untilQueued ∧
      .started ∈ history (decisions 0) s stopAfterJob ∧
      (writesOf (s.writes stopAfterJob) 0).map Write.delivery = [⟨0, [0x1D, 0x56, 0x41, 0x00]⟩] ∧
      (s.run stopAfterJob).activity = .stopped ∧
      (s.run stopAfterJob).result? (.job 0) = some (.ok ()) := by
  decide +kernel

end ReceiptPrinter.Spooler

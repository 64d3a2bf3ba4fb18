import Mathlib.Data.List.Nodup
import ReceiptPrinter.Proofs.Spooler.Outcome
import ReceiptPrinter.Proofs.Spooler.Printing

/-!
# The printing stage

`Bracket`: in every run the stage `printing` is entered from `ready`, once for every job that passes
all checks; writes and flushes start, arrive and return in it only; and it is left by the worker, to
`ready` exactly when the job has been `Printed`, and to `faulted` exactly when a write or a flush
has returned an error.
-/

namespace ReceiptPrinter.Spooler

variable {s s' : Spooler} {a : Action} {job : Nat} {j j' : Job}

/-! ### Entries -/

/-- Whether `printing` is not entered on the way from `s` to `s'`. -/
structure Quiet (s s' : Spooler) : Prop where
  stage : s'.stage = .printing → s.stage = .printing
  count : s'.transitions.count .printing = s.transitions.count .printing

theorem Quiet.of_eq (hstage : s'.stage = s.stage) (htransitions : s'.transitions = s.transitions) :
    s.Quiet s' :=
  ⟨fun h => hstage ▸ h, by rw [htransitions]⟩

theorem count_entered {stage : Stage} (h : stage ≠ .printing) :
    (s.entered stage).count .printing = s.transitions.count .printing := by
  unfold entered
  split
  · rfl
  · rw [List.count_append, List.count_singleton, beq_false_of_ne h]
    rfl

theorem Quiet.of_entered {stage : Stage} (h : stage ≠ .printing) (hstage : s'.stage = stage)
    (htransitions : s'.transitions = s.entered stage) : s.Quiet s' :=
  ⟨fun hprinting => absurd (hstage.symm.trans hprinting) h, by rw [htransitions, count_entered h]⟩

theorem Quiet.trans {s'' : Spooler} (h : s.Quiet s') (h' : s'.Quiet s'') : s.Quiet s'' :=
  ⟨fun hstage => h.stage (h'.stage hstage), h'.count.trans h.count⟩

theorem quiet_enter (s : Spooler) {stage : Stage} (h : stage ≠ .printing) :
    s.Quiet (s.enter stage) := by
  rw [enter_eq]
  exact .of_entered h rfl rfl

theorem Called.quiet {c : Call} {answer : Answer} (h : Called s c answer s') : s.Quiet s' := by
  cases h with
  | connectClosed =>
    exact (quiet_enter s (by simp)).trans (quiet_enter _ (by simp))
  | connecting => exact .of_entered (by simp) rfl rfl
  | _ => exact .of_eq rfl rfl

theorem quiet_faultJob (s : Spooler) (i : Nat) (e : ConnectionError) :
    s.Quiet (s.faultJob i e) := by
  rw [faultJob_eq]
  exact .of_entered (by simp) rfl rfl

theorem quiet_completeJob (s : Spooler) (i : Nat) : s.Quiet (s.completeJob i) := by
  rw [completeJob_eq]
  exact .of_entered (by simp) rfl rfl

theorem Resumed.quiet {i : Nat} {segments : List (List UInt8)} (h : Resumed s i segments s') :
    s.Quiet s' := by
  cases h with
  | writing => exact .of_eq rfl rfl
  | flushing => exact .of_eq rfl rfl
  | completed => exact quiet_completeJob s i
  | failed segments e => exact quiet_faultJob s i e

theorem Worked.quiet (h : Worked s s') (hbegun : s.begun .work = []) : s.Quiet s' := by
  cases h with
  | closed => exact .of_entered (by simp) rfl rfl
  | opening => exact .of_eq (by rw [startConnect_eq]) (by rw [startConnect_eq])
  | opened => exact .of_entered (by simp) rfl rfl
  | openFailed => exact .of_entered (by simp) rfl rfl
  | started i ji segments queue _ hact hqueue hi hphase hsegments hstage hconnected hr =>
    rw [begun_work (nextJob?_of_cons hact hqueue),
      (passes_iff hi).2 ⟨hphase, ⟨segments, hsegments⟩, hstage, hconnected⟩] at hbegun
    cases hbegun
  | wrote i segment rest due channel _ hact hlive hfault hr =>
    exact ⟨hr.quiet.stage, hr.quiet.count⟩
  | writeFailed => exact quiet_faultJob s _ _
  | flushFailed => exact quiet_faultJob s _ _
  | drained => exact quiet_completeJob s _
  | _ => exact .of_eq rfl rfl

/-- `printing` is entered only when a job passes all checks. -/
theorem quiet_of_begun (hbegun : s.begun a = []) : s.Quiet (s.act a) := by
  have h := happened s a
  generalize s.act a = s' at h
  cases h with
  | call c answer _ h => exact h.quiet
  | work _ h => exact h.quiet hbegun
  | stop => exact .of_entered (by simp) rfl rfl
  | change => exact .of_eq rfl rfl
  | advance => exact .of_eq rfl rfl
  | nothing => exact .of_eq rfl rfl

theorem count_begun_le (s : Spooler) (a : Action) (job : Nat) :
    (s.begun a).count job ≤ (decisions job s a).length := by
  cases a with
  | work =>
    cases hnext : s.nextJob? with
    | none => rw [begun_of_nextJob? hnext]; exact Nat.zero_le _
    | some i =>
      rw [begun_work hnext]
      by_cases hpasses : s.passes i = true
      · rw [if_pos hpasses]
        by_cases hi : i = job
        · subst hi
          have hjob : ∃ j, s.jobs[i]? = some j := by
            obtain ⟨j, hj, -⟩ := (Option.any_eq_true _ _).1 hpasses
            exact ⟨j, hj⟩
          obtain ⟨j, hj⟩ := hjob
          rw [decisions_work hnext hj, if_pos ((passes_iff hj).1 hpasses).1]
          simp
        · simp [hi]
      · rw [if_neg hpasses]
        exact Nat.zero_le _
  | _ => exact Nat.zero_le _

theorem count_history_begun_le (s : Spooler) (actions : List Action) (job : Nat) :
    (history begun s actions).count job ≤ (history (decisions job) s actions).length := by
  induction actions generalizing s with
  | nil => exact Nat.le_refl _
  | cons a actions ih =>
    rw [history, history, List.count_append, List.length_append]
    exact Nat.add_le_add (count_begun_le s a job) (ih (s.act a))

/-! ### Flushes -/

/-- How the flushes that have ended well stand to the jobs. -/
structure Flushes (s : Spooler) (flushes : List Nat) : Prop where
  flushing : ∀ job due late, s.activity = .flushing job due late → s.drains job = true
  draining : ∀ job due, s.activity = .draining job due → job ∈ flushes
  listed : ∀ job ∈ flushes, (∃ due, s.activity = .draining job due) ∨
    ∃ j, s.jobs[job]? = some j ∧ j.outcome ≠ none

theorem Moved.config (h : Moved s s' a job j j') : j'.config = j.config := by
  cases h <;> rfl

theorem drains_act (hjob : s.jobs[job]? = some j) (a : Action) :
    (s.act a).drains job = s.drains job := by
  obtain ⟨j', hj', hmoved⟩ := moved a hjob
  rw [drains, drains, hjob, hj', Option.any_some, Option.any_some, hmoved.config]

/-- An outcome that is there stays. -/
theorem ended_act (hp : s.Pending) (h : ∃ j, s.jobs[job]? = some j ∧ j.outcome ≠ none)
    (a : Action) : ∃ j, (s.act a).jobs[job]? = some j ∧ j.outcome ≠ none := by
  obtain ⟨j, hjob, hout⟩ := h
  obtain ⟨r, hr⟩ := Option.ne_none_iff_exists'.1 hout
  obtain ⟨j', hj', hmoved⟩ := moved a hjob
  exact ⟨j', hj', by rw [hmoved.outcome_stays hp hjob hr]; simp⟩

theorem exists_ended_outcomes {jobs : List Job} (hjob : jobs[job]? = some j) (r : PrintResult) :
    ∃ j, (outcomes jobs job r)[job]? = some j ∧ j.outcome ≠ none :=
  ⟨_, getElem?_outcomes_self hjob r, by simp⟩

theorem flushed_of_idle (hidle : s.activity.job? = none) (a : Action) : s.flushed a = [] := by
  unfold flushed
  split
  · next hact _ =>
    rw [hact] at hidle
    cases hidle
  · rfl

theorem flushed_of_returned (h : s.returned? a ≠ some (.ok ())) : s.flushed a = [] := by
  unfold flushed
  split
  · next hreturned => exact absurd hreturned h
  · rfl

theorem flushed_of_error {e : ConnectionError} (h : s.returned? a = some (.error e)) :
    s.flushed a = [] := flushed_of_returned (by simp [h])

theorem not_draining_of_returned {result : Except ConnectionError Unit}
    (h : s.returned? a = some result) (job due : Nat) : s.activity ≠ .draining job due := by
  intro hact
  cases a with
  | work =>
    rw [returned?, hact] at h
    simp at h
  | _ => cases h

/-- A job whose flush is listed has ended by the next state, unless the printer empties its buffer
after it. -/
theorem Flushes.ended {flushes : List Nat} (h : s.Flushes flushes) (hp : s.Pending) (a : Action)
    (hmem : job ∈ flushes) (hnot : ∀ due, s.activity ≠ .draining job due) :
    ∃ j, (s.act a).jobs[job]? = some j ∧ j.outcome ≠ none := by
  obtain ⟨due, hact⟩ | hended := h.listed job hmem
  · exact absurd hact (hnot due)
  · exact ended_act hp hended a

theorem Flushes.of_begins {flushes : List Nat} (h : s.Flushes flushes) (hp : s.Pending)
    (hidle : s.activity.job? = none) (hbegins : Begins s (s.act a) a) :
    (s.act a).Flushes (flushes ++ s.flushed a) := by
  have hended : ∀ job ∈ flushes, (∃ due, (s.act a).activity = .draining job due) ∨
      ∃ j, (s.act a).jobs[job]? = some j ∧ j.outcome ≠ none := by
    intro job hmem
    refine .inr (h.ended hp a hmem fun due hact => ?_)
    rw [hact] at hidle
    cases hidle
  rw [flushed_of_idle hidle, List.append_nil]
  cases hbegins with
  | none _ hidle' =>
    refine ⟨fun job due late hact => ?_, fun job due hact => ?_, hended⟩
    · simp [hact, Activity.job?] at hidle'
    · simp [hact, Activity.job?] at hidle'
  | first i segment rest due late _ _ _ hactivity =>
    exact ⟨by simp [hactivity], by simp [hactivity], hended⟩

theorem Flushes.of_proceeds {flushes : List Nat} (h : s.Flushes flushes) (hp : s.Pending)
    (hactive : s.activity.job? = some job) (hproceeds : Proceeds s (s.act a) a job) :
    (s.act a).Flushes (flushes ++ s.flushed a) := by
  obtain ⟨-, j, hjob, -⟩ := hp.active job hactive
  cases hproceeds with
  | waits hreturned hactivity =>
    rw [flushed_of_returned (by simp [hreturned]), List.append_nil]
    refine ⟨fun i due late hact => ?_, fun i due hact => ?_, fun i hmem => ?_⟩
    · rw [hactivity] at hact
      have hi : job = i := by simpa [hact, Activity.job?] using hactive.symm
      rw [← hi, drains_act hjob, hi, h.flushing i due late hact]
    · exact h.draining i due (hactivity ▸ hact)
    · rw [hactivity]
      exact (h.listed i hmem).imp_right fun hended => ended_act hp hended a
  | writes segment rest due late hreturned hflushed hactivity =>
    have hnot := not_draining_of_returned hreturned
    rw [hflushed, List.append_nil]
    exact ⟨by simp [hactivity], by simp [hactivity],
      fun i hmem => .inr (h.ended hp a hmem (hnot i))⟩
  | flushes due late hreturned hflushed hdrains hactivity =>
    have hnot := not_draining_of_returned hreturned
    rw [hflushed, List.append_nil]
    refine ⟨fun i due late hact => ?_, by simp [hactivity],
      fun i hmem => .inr (h.ended hp a hmem (hnot i))⟩
    rw [hactivity] at hact
    cases hact
    rw [drains_act hjob, hdrains]
  | drains due hreturned hflushed hactivity =>
    have hnot := not_draining_of_returned hreturned
    rw [hflushed]
    refine ⟨by simp [hactivity], fun i due hact => ?_, fun i hmem => ?_⟩
    · rw [hactivity] at hact
      cases hact
      simp
    · rcases List.mem_append.1 hmem with hmem | hmem
      · exact .inr (h.ended hp a hmem (hnot i))
      · rw [List.mem_singleton.1 hmem]
        exact .inl ⟨due, hactivity⟩
  | completes _ _ hflushed _ hactivity _ hjobs =>
    rw [hflushed, List.append_nil]
    refine ⟨by simp [hactivity], by simp [hactivity], fun i hmem => .inr ?_⟩
    by_cases hi : job = i
    · rw [← hi, hjobs]
      exact exists_ended_outcomes hjob _
    · refine h.ended hp a hmem fun due hact => hi ?_
      simpa [hact, Activity.job?] using hactive.symm
  | fails e _ hreturned _ _ hactivity =>
    have hnot := not_draining_of_returned hreturned
    rw [flushed_of_error hreturned, List.append_nil]
    exact ⟨by simp [hactivity], by simp [hactivity],
      fun i hmem => .inr (h.ended hp a hmem (hnot i))⟩

theorem Flushes.act {flushes : List Nat} (h : s.Flushes flushes) (hp : s.Pending)
    (hcoherent : s.Coherent) (hagrees : s.activity = .waiting → s.Agrees) (a : Action) :
    (s.act a).Flushes (flushes ++ s.flushed a) := by
  cases hactive : s.activity.job? with
  | none => exact h.of_begins hp hactive (begins hcoherent hagrees hactive a)
  | some job => exact h.of_proceeds hp hactive (proceeds hcoherent hactive a)

/-! ### Runs -/

variable (writeDeadline drainDelay : Nat)

theorem flushes_run (actions : List Action) :
    ((start writeDeadline drainDelay).run actions).Flushes
      (history flushed (start writeDeadline drainDelay) actions) := by
  induction actions using List.reverseRecOn with
  | nil => exact ⟨by simp [run, start], by simp [run, start], by simp [history]⟩
  | append_singleton actions a ih =>
    rw [run_concat, history_concat]
    exact ih.act (pending_run writeDeadline drainDelay actions)
      (coherent_run writeDeadline drainDelay actions)
      (agrees_of_waiting writeDeadline drainDelay actions) a

/-- In every run the stage is `printing` exactly while a job is printed. -/
theorem printing_iff_active (actions : List Action) :
    ((start writeDeadline drainDelay).run actions).stage = .printing ↔
      ∃ job, ((start writeDeadline drainDelay).run actions).activity.job? = some job := by
  constructor
  · induction actions using List.reverseRecOn with
    | nil => simp [run, start]
    | append_singleton actions a ih =>
      have hcoherent := coherent_run writeDeadline drainDelay actions
      rw [run_concat]
      intro hstage
      cases hactive : ((start writeDeadline drainDelay).run actions).activity.job? with
      | none =>
        cases begins hcoherent (agrees_of_waiting writeDeadline drainDelay actions) hactive a with
        | none hbegun =>
          obtain ⟨job, hjob⟩ := ih ((quiet_of_begun hbegun).stage hstage)
          rw [hactive] at hjob
          cases hjob
        | first job _ _ _ _ _ _ _ hactivity => exact ⟨job, by rw [hactivity]; rfl⟩
      | some job =>
        cases proceeds hcoherent hactive a with
        | waits _ hactivity => exact ⟨job, by rw [hactivity, hactive]⟩
        | writes _ _ _ _ _ _ hactivity => exact ⟨job, by rw [hactivity]; rfl⟩
        | flushes _ _ _ _ _ hactivity => exact ⟨job, by rw [hactivity]; rfl⟩
        | drains _ _ _ hactivity => exact ⟨job, by rw [hactivity]; rfl⟩
        | completes _ _ _ _ _ hready => simp [hready] at hstage
        | fails _ _ _ _ _ _ hfaulted => simp [hfaulted] at hstage
  · rintro ⟨job, hjob⟩
    exact ((coherent_run writeDeadline drainDelay actions).printing job hjob).1

/-- `printing` is entered once for every job that passes all checks. -/
theorem count_printing (actions : List Action) :
    ((start writeDeadline drainDelay).run actions).transitions.count .printing =
      (history begun (start writeDeadline drainDelay) actions).length := by
  induction actions using List.reverseRecOn with
  | nil => rfl
  | append_singleton actions a ih =>
    have hcoherent := coherent_run writeDeadline drainDelay actions
    rw [run_concat, history_concat, List.length_append, ← ih]
    cases hactive : ((start writeDeadline drainDelay).run actions).activity.job? with
    | some job =>
      have hbegun := begun_of_active hactive a
      rw [(quiet_of_begun hbegun).count, hbegun]
      rfl
    | none =>
      cases begins hcoherent (agrees_of_waiting writeDeadline drainDelay actions) hactive a with
      | none hbegun =>
        rw [(quiet_of_begun hbegun).count, hbegun]
        rfl
      | first _ _ _ _ _ _ hbegun _ _ _ htransitions =>
        rw [htransitions, hbegun, List.count_append]
        rfl

/-- No job is begun twice. -/
theorem nodup_begun (actions : List Action) :
    (history begun (start writeDeadline drainDelay) actions).Nodup := by
  refine List.nodup_iff_count_le_one.2 fun job => ?_
  refine Nat.le_trans (count_history_begun_le _ actions job) ?_
  cases hjob : ((start writeDeadline drainDelay).run actions).jobs[job]? with
  | none =>
    rw [history_decisions_of_new hjob]
    exact Nat.zero_le _
  | some j =>
    rw [history_decisions hjob]
    exact JobPhase.length_decisions _

/-! ### Jobs that are printed -/

variable {writeDeadline drainDelay} {actions : List Action}

/-- Whether in a run all segments of `job` have arrived and, if the connection ends after it, a
flush after them has ended well. -/
def Printed (s : Spooler) (actions : List Action) (job : Nat) : Prop :=
  ∃ j segments, (s.run actions).jobs[job]? = some j ∧ j.segments = .ok segments ∧
    bytesOf (writesOf (s.writes actions) job) = segments ∧
    (j.config.disconnectAfterPrint = true → job ∈ history flushed s actions)

/-- The segments of a job that is printed are those that have arrived and those that are left. -/
theorem Ledger.segments {log : List Write} {taken : Nat} {left : List (List UInt8)}
    (h : Ledger s log taken s.activity.progress?)
    (hprogress : s.activity.progress? = some (job, left)) (hjob : s.jobs[job]? = some j) :
    j.segments = .ok (bytesOf (writesOf log job) ++ left) := by
  obtain ⟨-, order, hstanding, hprints, -⟩ := h.printing job left hprogress
  obtain ⟨j', hj', horder⟩ := exists_job_of_standing hstanding
  rw [hjob] at hj'
  cases hj'
  have horder : j.order = order := congrArg Standing.order horder
  rw [← horder] at hprints
  exact Job.segments_eq_ok_iff.2 hprints

/-- A job is not `Printed` before its last write and, if it needs one, its flush have ended well. -/
theorem not_printed_of_active
    (hactive : ((start writeDeadline drainDelay).run actions).activity.job? = some job)
    (hnot : ∀ due, ((start writeDeadline drainDelay).run actions).activity ≠ .draining job due) :
    ¬(start writeDeadline drainDelay).Printed actions job := by
  rintro ⟨j, segments, hjob, hsegments, hbytes, hflushed⟩
  obtain ⟨taken, hledger⟩ := ledger_run writeDeadline drainDelay actions
  have hflushes := flushes_run writeDeadline drainDelay actions
  have hpending := pending_run writeDeadline drainDelay actions
  generalize (start writeDeadline drainDelay).run actions = s at *
  cases hact : s.activity with
  | writing i segment rest due late =>
    rw [hact] at hactive
    cases hactive
    -- the segment under way has not arrived
    have hleft := hledger.segments (by rw [hact]; rfl) hjob
    rw [hsegments, ← hbytes, Except.ok.injEq] at hleft
    simp at hleft
  | flushing i due late =>
    rw [hact] at hactive
    cases hactive
    -- the flush is listed only once it has ended
    have hdrains := hflushes.flushing job due late hact
    rw [drains, hjob, Option.any_some] at hdrains
    obtain ⟨due', hdraining⟩ | ⟨j', hj', hended⟩ := hflushes.listed job (hflushed hdrains)
    · exact hnot due' hdraining
    · exact hended (outcome_of_exists hj' (hpending.active job (by rw [hact]; rfl)).2)
  | draining i due =>
    rw [hact] at hactive
    cases hactive
    exact hnot due hact
  | _ =>
    rw [hact] at hactive
    cases hactive

theorem printed_of_ok (hjob : ((start writeDeadline drainDelay).run actions).jobs[job]? = some j)
    (hok : j.outcome = some (.ok ())) (hflushed : j.config.disconnectAfterPrint = true →
      job ∈ history flushed (start writeDeadline drainDelay) actions) :
    (start writeDeadline drainDelay).Printed actions job := by
  obtain ⟨taken, hledger⟩ := ledger_run writeDeadline drainDelay actions
  have hstanding : ((start writeDeadline drainDelay).run actions).standings[job]? =
      some j.standing := by
    rw [standings, List.getElem?_map, hjob, Option.map_some]
  have hwrote := hledger.wrote hstanding
  have hsome : j.standing.outcome = some (.ok ()) := hok
  rw [Standing.Wrote, hsome] at hwrote
  obtain ⟨-, -, -, hprints⟩ := hwrote
  exact ⟨j, _, hjob, Job.segments_eq_ok_iff.2 hprints, rfl, hflushed⟩

/-- While a job is printed and not drained, the stage is not `ready` and the job is not `Printed`.
-/
theorem ready_iff_of_active
    (hactive : ((start writeDeadline drainDelay).run actions).activity.job? = some job) :
    ((start writeDeadline drainDelay).run actions).stage = .ready ↔
      (start writeDeadline drainDelay).Printed actions job ∧
      ∀ due, ((start writeDeadline drainDelay).run actions).activity ≠ .draining job due := by
  have hprinting := ((coherent_run writeDeadline drainDelay actions).printing job hactive).1
  exact iff_of_false (by simp [hprinting]) fun h => not_printed_of_active hactive h.2 h.1

theorem printed_of_completed
    (hjob : ((start writeDeadline drainDelay).run actions).jobs[job]? = some j)
    (hdrained : ((start writeDeadline drainDelay).run actions).drains job = false ∨
      ∃ due, ((start writeDeadline drainDelay).run actions).activity = .draining job due)
    (hjobs : ((start writeDeadline drainDelay).run (actions ++ [a])).jobs =
      outcomes ((start writeDeadline drainDelay).run actions).jobs job (.ok ())) :
    (start writeDeadline drainDelay).Printed (actions ++ [a]) job := by
  have hended : ((start writeDeadline drainDelay).run (actions ++ [a])).jobs[job]? =
      some { j with outcome := some (.ok ()) } := by
    rw [hjobs, getElem?_outcomes_self hjob]
  refine printed_of_ok hended rfl fun hdisconnects => ?_
  have hdrains : ((start writeDeadline drainDelay).run actions).drains job = true := by
    rw [drains, hjob, Option.any_some]
    exact hdisconnects
  obtain ⟨due, hdraining⟩ := hdrained.resolve_left (by simp [hdrains])
  rw [history_concat]
  exact List.mem_append_left _
    ((flushes_run writeDeadline drainDelay actions).draining job due hdraining)

theorem not_printed_of_failed
    (hactive : ((start writeDeadline drainDelay).run actions).activity.job? = some job)
    (hdraining : ∀ due, ((start writeDeadline drainDelay).run actions).activity ≠ .draining job due)
    (hwrote : ((start writeDeadline drainDelay).run actions).wrote a = [])
    (hflushed : ((start writeDeadline drainDelay).run actions).flushed a = []) {r : PrintResult}
    (hjobs : ((start writeDeadline drainDelay).run (actions ++ [a])).jobs =
      outcomes ((start writeDeadline drainDelay).run actions).jobs job r) :
    ¬(start writeDeadline drainDelay).Printed (actions ++ [a]) job := by
  rintro ⟨j', segments, hj', hsegments, hbytes, hlisted⟩
  obtain ⟨-, j, hjob, -⟩ := (pending_run writeDeadline drainDelay actions).active job hactive
  rw [hjobs, getElem?_outcomes_self hjob] at hj'
  cases hj'
  rw [writes_concat, hwrote, List.append_nil] at hbytes
  rw [history_concat, hflushed, List.append_nil] at hlisted
  exact not_printed_of_active hactive hdraining ⟨j, segments, hjob, hsegments, hbytes, hlisted⟩

/-- The stage after an action is `ready` exactly once the job is `Printed` and the printer has
emptied its buffer. -/
theorem ready_iff_printed
    (hactive : ((start writeDeadline drainDelay).run actions).activity.job? = some job)
    (a : Action) :
    ((start writeDeadline drainDelay).run (actions ++ [a])).stage = .ready ↔
      (start writeDeadline drainDelay).Printed (actions ++ [a]) job ∧
      ∀ due, ((start writeDeadline drainDelay).run (actions ++ [a])).activity ≠
        .draining job due := by
  obtain ⟨-, j, hjob, -⟩ := (pending_run writeDeadline drainDelay actions).active job hactive
  have hproceeds := proceeds (coherent_run writeDeadline drainDelay actions) hactive a
  rw [← run_concat] at hproceeds
  cases hproceeds with
  | waits _ hactivity => exact ready_iff_of_active (by rw [hactivity, hactive])
  | writes segment rest due late _ _ hactivity => exact ready_iff_of_active (by rw [hactivity]; rfl)
  | flushes due late _ _ _ hactivity => exact ready_iff_of_active (by rw [hactivity]; rfl)
  | drains due _ _ hactivity => exact ready_iff_of_active (by rw [hactivity]; rfl)
  | completes _ _ _ hdrained hactivity hready hjobs =>
    exact iff_of_true hready ⟨printed_of_completed hjob hdrained hjobs, by simp [hactivity]⟩
  | fails e _ hreturned hdraining hwrote _ hfaulted hjobs =>
    have hflushed := flushed_of_error hreturned
    exact iff_of_false (by simp [hfaulted]) fun h =>
      not_printed_of_failed hactive hdraining hwrote hflushed hjobs h.1

/-! ### The bracket -/

/-- How `printing` stands around the printing of jobs, at an action after a run. -/
structure Bracket (s : Spooler) (actions : List Action) (a : Action) : Prop where
  /-- A write or flush is under way only in the printing stage. -/
  printing_iff : (s.run actions).stage = .printing ↔
    ∃ job, (s.run actions).activity.job? = some job
  /-- In the printing stage writes and flushes start without error. -/
  starts : (s.run actions).stage = .printing → ∃ write flush,
    (s.run actions).connection.startWrite (s.run actions).link = .ok write ∧
    (s.run actions).connection.startFlush (s.run actions).link = .ok flush
  arrives : (s.run actions).wrote a ≠ [] → (s.run actions).stage = .printing
  returns : (s.run actions).returned? a ≠ none → (s.run actions).stage = .printing
  enters : (s.run actions).stage ≠ .printing →
    ((s.run (actions ++ [a])).stage = .printing ↔ (s.run actions).begun a ≠ [])
  begins : ∀ job ∈ (s.run actions).begun a, a = .work ∧ (s.run actions).stage = .ready ∧
    (s.run (actions ++ [a])).stage = .printing ∧
    (s.run (actions ++ [a])).activity.job? = some job
  /-- Only the worker leaves the printing stage, so no call changes it. -/
  leaves : (s.run actions).stage = .printing → (s.run (actions ++ [a])).stage ≠ .printing →
    a = .work ∧
      ((s.run (actions ++ [a])).stage = .ready ∨ (s.run (actions ++ [a])).stage = .faulted)
  ready_iff : ∀ job, (s.run actions).activity.job? = some job →
    ((s.run (actions ++ [a])).stage = .ready ↔
      s.Printed (actions ++ [a]) job ∧ ∀ due, (s.run (actions ++ [a])).activity ≠ .draining job due)
  faulted_iff : (s.run actions).stage = .printing →
    ((s.run (actions ++ [a])).stage = .faulted ↔
      ∃ e, (s.run actions).returned? a = some (.error e))

theorem active_of_returned (h : s.returned? a ≠ none) : ∃ job, s.activity.job? = some job := by
  cases a with
  | work =>
    unfold returned? at h
    simp only at h
    split at h
    · exact absurd rfl h
    · split at h
      · next hact => exact ⟨_, by rw [hact]; rfl⟩
      · next hact => exact ⟨_, by rw [hact]; rfl⟩
      · exact absurd rfl h
  | _ => exact absurd rfl h

theorem active_of_wrote (h : s.wrote a ≠ []) : ∃ job, s.activity.job? = some job := by
  obtain ⟨hnone, -⟩ | ⟨job, segment, rest, channel, harrives, -⟩ := s.wrote_cases a
  · exact absurd hnone h
  · obtain ⟨due, hact⟩ := harrives.writing
    exact ⟨job, by rw [hact]; rfl⟩

theorem bracket (writeDeadline drainDelay : Nat) (actions : List Action) (a : Action) :
    Bracket (start writeDeadline drainDelay) actions a where
  printing_iff := printing_iff_active writeDeadline drainDelay actions
  starts := by
    intro hstage
    have hcoherent := coherent_run writeDeadline drainDelay actions
    obtain ⟨job, hjob⟩ := (printing_iff_active writeDeadline drainDelay actions).1 hstage
    have hlive := hcoherent.live (hcoherent.printing job hjob).2
    exact ⟨_, _, hlive.startWrite _, hlive.startFlush _⟩
  arrives := fun h => (printing_iff_active writeDeadline drainDelay actions).2 (active_of_wrote h)
  returns := fun h =>
    (printing_iff_active writeDeadline drainDelay actions).2 (active_of_returned h)
  enters := by
    intro hstage
    have hidle : ((start writeDeadline drainDelay).run actions).activity.job? = none :=
      Option.eq_none_iff_forall_ne_some.2 fun job hjob =>
        hstage ((printing_iff_active writeDeadline drainDelay actions).2 ⟨job, hjob⟩)
    rw [run_concat]
    cases begins (coherent_run writeDeadline drainDelay actions)
        (agrees_of_waiting writeDeadline drainDelay actions) hidle a with
    | none hbegun =>
      exact iff_of_false (fun h => hstage ((quiet_of_begun hbegun).stage h)) (by simp [hbegun])
    | first job _ _ _ _ _ hbegun _ _ hprinting => exact iff_of_true hprinting (by simp [hbegun])
  begins := by
    intro job hmem
    have hidle : ((start writeDeadline drainDelay).run actions).activity.job? = none :=
      Option.eq_none_iff_forall_ne_some.2 fun i hi => by
        rw [begun_of_active hi] at hmem
        cases hmem
    rw [run_concat]
    cases begins (coherent_run writeDeadline drainDelay actions)
        (agrees_of_waiting writeDeadline drainDelay actions) hidle a with
    | none hbegun =>
      rw [hbegun] at hmem
      cases hmem
    | first i _ _ _ _ ha hbegun hready hactivity hprinting =>
      rw [hbegun, List.mem_singleton] at hmem
      exact ⟨ha, hready, hprinting, by rw [hactivity, hmem]; rfl⟩
  leaves := by
    intro hstage hleft
    obtain ⟨job, hjob⟩ := (printing_iff_active writeDeadline drainDelay actions).1 hstage
    rw [run_concat] at hleft ⊢
    cases proceeds (coherent_run writeDeadline drainDelay actions) hjob a with
    | completes ha _ _ _ _ hready => exact ⟨ha, .inl hready⟩
    | fails e ha _ _ _ _ hfaulted => exact ⟨ha, .inr hfaulted⟩
    | waits _ _ hsame => exact absurd (hsame.trans hstage) hleft
    | writes _ _ _ _ _ _ _ hsame => exact absurd (hsame.trans hstage) hleft
    | flushes _ _ _ _ _ _ hsame => exact absurd (hsame.trans hstage) hleft
    | drains _ _ _ _ hsame => exact absurd (hsame.trans hstage) hleft
  ready_iff := fun job hjob => ready_iff_printed hjob a
  faulted_iff := by
    intro hstage
    obtain ⟨job, hjob⟩ := (printing_iff_active writeDeadline drainDelay actions).1 hstage
    rw [run_concat]
    cases proceeds (coherent_run writeDeadline drainDelay actions) hjob a with
    | completes _ hreturned _ _ _ hready =>
      exact iff_of_false (by simp [hready]) fun ⟨e, he⟩ => hreturned e he
    | fails e _ hreturned _ _ _ hfaulted => exact iff_of_true hfaulted ⟨e, hreturned⟩
    | waits hreturned _ hsame => simp [hsame, hstage, hreturned]
    | writes _ _ _ _ hreturned _ _ hsame => simp [hsame, hstage, hreturned]
    | flushes _ _ hreturned _ _ _ hsame => simp [hsame, hstage, hreturned]
    | drains _ hreturned _ _ hsame => simp [hsame, hstage, hreturned]

/-- In every run the stage `printing` brackets the printing of jobs, and is entered once for every
job that passes all checks. -/
theorem printing_bracket (writeDeadline drainDelay : Nat) (actions : List Action) :
    (∀ a, Bracket (start writeDeadline drainDelay) actions a) ∧
    ((start writeDeadline drainDelay).run actions).transitions.count .printing =
      (history begun (start writeDeadline drainDelay) actions).length ∧
    (history begun (start writeDeadline drainDelay) actions).Nodup :=
  ⟨bracket writeDeadline drainDelay actions, count_printing writeDeadline drainDelay actions,
    nodup_begun writeDeadline drainDelay actions⟩

end ReceiptPrinter.Spooler

import ReceiptPrinter.Proofs.Spooler.Wire

/-!
# What an action does to a job

`Moved`: an action keeps a job, or it cancels it, takes it from the queue, ends it or leaves it
unprinted when the worker stops, each with the conditions under which it does.
-/

namespace ReceiptPrinter

/-- Whether a result is the printer's: success, or a fault of the connection. -/
def FromPrinter (r : PrintResult) : Prop := r = .ok () ∨ ∃ e, r = .error (.connection e)

namespace Spooler

variable {s s' : Spooler} {a : Action} {job : Nat} {j j' : Job}

/-- Whether stage, transitions, configuration, connection and link have stayed the same. -/
structure Untouched (s s' : Spooler) : Prop where
  stage : s'.stage = s.stage
  transitions : s'.transitions = s.transitions
  config : s'.config = s.config
  connection : s'.connection = s.connection
  link : s'.link = s.link

theorem Untouched.refl (s : Spooler) : s.Untouched s := ⟨rfl, rfl, rfl, rfl, rfl⟩

/-- The job that the worker takes from the queue next. -/
def nextJob? (s : Spooler) : Option Nat :=
  match s.activity with
  | .waiting => s.queue.head?.bind Request.job?
  | _ => none

theorem nextJob?_of_cons {request : Request} {queue : List Request} (hact : s.activity = .waiting)
    (hqueue : s.queue = request :: queue) : s.nextJob? = request.job? := by
  rw [nextJob?, hact, hqueue]
  rfl

theorem nextJob?_eq_some (h : s.nextJob? = some job) :
    s.activity = .waiting ∧ ∃ queue, s.queue = .print job :: queue := by
  unfold nextJob? at h
  split at h
  · next hact =>
    cases hqueue : s.queue with
    | nil =>
      rw [hqueue] at h
      cases h
    | cons request queue =>
      rw [hqueue] at h
      cases request with
      | print i =>
        cases h
        exact ⟨hact, queue, rfl⟩
      | _ => cases h
  · cases h

theorem nextJob?_of_busy (h : s.activity ≠ .waiting) : s.nextJob? = none := by
  unfold nextJob?
  split
  · next hact => exact absurd hact h
  · rfl

/-- Whether an action deals with `job`: a call that it is accepted for, a call to cancel it, or a
step of the worker that takes it from the queue or prints it. -/
def Concerns (s : Spooler) (job : Nat) : Action → Prop
  | .call c => (s.call c).1 = .job job ∨ c = .cancel job
  | .work => s.nextJob? = some job ∨ s.activity.job? = some job
  | _ => False

/-! ### What an action does to a job -/

/-- What an action does to a job that has been accepted. -/
inductive Moved (s s' : Spooler) (a : Action) (job : Nat) (j : Job) : Job → Prop
  | kept (hcancel : a = .call (.cancel job) → j.phase ≠ .queued)
    (hnext : a = .work → s.nextJob? ≠ some job)
    (hqueue : .print job ∈ s.queue → .print job ∈ s'.queue)
    (hactive : s.activity.job? = some job → s'.activity.job? = some job)
    (hstopped : s.activity = .stopped → s'.activity = .stopped) : Moved s s' a job j j
  | cancelled (ha : a = .call (.cancel job)) (hphase : j.phase = .queued)
    (hqueue : s'.queue = s.queue) (hactivity : s'.activity = s.activity) :
    Moved s s' a job j { j with phase := .cancelled }
  | skipped (ha : a = .work) (hnext : s.nextJob? = some job) (hphase : j.phase ≠ .queued)
    (huntouched : s.Untouched s') :
    Moved s s' a job j { j with outcome := some (.error .cancelled) }
  | refused (e : PrintError) (ha : a = .work) (hnext : s.nextJob? = some job)
    (hphase : j.phase = .queued) (hrefuses : s.Refuses j e) (huntouched : s.Untouched s') :
    Moved s s' a job j { j with phase := .started, outcome := some (.error e) }
  | started (ha : a = .work) (hnext : s.nextJob? = some job) (hphase : j.phase = .queued)
    (hconnected : s.connection.isConnected s.link = true)
    (hactive : s'.activity.job? = some job) : Moved s s' a job j { j with phase := .started }
  /-- The job is started and ends by the same step. -/
  | rushed (r : PrintResult) (ha : a = .work) (hnext : s.nextJob? = some job)
    (hphase : j.phase = .queued) (hconnected : s.connection.isConnected s.link = true)
    (hr : FromPrinter r) : Moved s s' a job j { j with phase := .started, outcome := some r }
  | ended (r : PrintResult) (ha : a = .work) (hactive : s.activity.job? = some job)
    (hr : FromPrinter r) : Moved s s' a job j { j with outcome := some r }
  | abandoned (ha : a = .stop) (hact : s.activity = .waiting) (hqueue : .print job ∈ s.queue)
    (hstopped : s'.activity = .stopped) :
    Moved s s' a job j { j with outcome := some (.error .closed) }

theorem getElem?_outcomes_self {jobs : List Job} (h : jobs[job]? = some j) (r : PrintResult) :
    (outcomes jobs job r)[job]? = some { j with outcome := some r } := by
  simp [outcomes, h]

theorem getElem?_outcomes_other {jobs : List Job} {i : Nat} (h : i ≠ job) (r : PrintResult) :
    (outcomes jobs i r)[job]? = jobs[job]? := by
  simp [outcomes, h]

theorem getElem?_startJob_self (h : s.jobs[job]? = some j) (queue : List Request) :
    (s.startJob queue job).jobs[job]? = some { j with phase := .started } := by
  simp [startJob, h]

theorem getElem?_startJob_other {i : Nat} (h : i ≠ job) (queue : List Request) :
    (s.startJob queue i).jobs[job]? = s.jobs[job]? := by
  simp [startJob, h]

/-- A call that cancels no job leaves jobs and queue as they are, or adds to them. -/
theorem Called.extends {c : Call} {answer : Answer} (h : Called s c answer s')
    (hc : ∀ i, c ≠ .cancel i) :
    s.jobs <+: s'.jobs ∧ s.queue <+: s'.queue ∧ s'.activity = s.activity := by
  cases h with
  | cancelled i => exact absurd rfl (hc i)
  | connectClosed =>
    rw [enter_eq, enter_eq]
    exact ⟨List.prefix_rfl, List.prefix_rfl, rfl⟩
  | configured => exact ⟨List.prefix_rfl, List.prefix_append _ _, rfl⟩
  | connecting => exact ⟨List.prefix_rfl, List.prefix_append _ _, rfl⟩
  | disconnecting => exact ⟨List.prefix_rfl, List.prefix_append _ _, rfl⟩
  | accepted => exact ⟨List.prefix_append _ _, List.prefix_append _ _, rfl⟩
  | _ => exact ⟨List.prefix_rfl, List.prefix_rfl, rfl⟩

theorem getElem?_of_isPrefix {α : Type} {l l' : List α} {i : Nat} {x : α} (h : l <+: l')
    (hx : l[i]? = some x) : l'[i]? = some x := by
  obtain ⟨more, rfl⟩ := h
  rw [List.getElem?_append_left (List.getElem?_eq_some_iff.1 hx).1, hx]

theorem Moved.of_cancel (hqueue : s'.queue = s.queue) (hactivity : s'.activity = s.activity) :
    Moved s s' (.call (.cancel job)) job j j.cancel.2 := by
  unfold Job.cancel
  split
  · next hphase => exact .cancelled rfl hphase hqueue hactivity
  · next hphase =>
    refine .kept (fun _ => hphase) (by simp) ?_ ?_ ?_
    · rw [hqueue]
      exact id
    · rw [hactivity]
      exact id
    · rw [hactivity]
      exact id

theorem moved_cancel (i : Nat) (hjob : s.jobs[job]? = some j) :
    ∃ j', (s.cancel i).2.jobs[job]? = some j' ∧
      Moved s (s.cancel i).2 (.call (.cancel i)) job j j' := by
  cases hi : s.jobs[i]? with
  | none =>
    have hcancel : s.cancel i = (.cancelled false, s) := by rw [cancel, hi]
    have hne : i ≠ job := by
      rintro rfl
      rw [hi] at hjob
      cases hjob
    rw [hcancel]
    exact ⟨j, hjob, .kept (by simp [hne]) (by simp) id id id⟩
  | some ji =>
    have hcancel : s.cancel i = (.cancelled ji.cancel.1, s.updateJob i fun j => j.cancel.2) := by
      rw [cancel, hi]
    rw [hcancel]
    by_cases hne : i = job
    · subst hne
      exact ⟨j.cancel.2, by simp [updateJob, hjob], .of_cancel rfl rfl⟩
    · exact ⟨j, by simp [updateJob, hjob, hne], .kept (by simp [hne]) (by simp) id id id⟩

theorem moved_call (c : Call) (hjob : s.jobs[job]? = some j) :
    ∃ j', (s.call c).2.jobs[job]? = some j' ∧ Moved s (s.call c).2 (.call c) job j j' := by
  by_cases hc : ∃ i, c = .cancel i
  · obtain ⟨i, rfl⟩ := hc
    exact moved_cancel i hjob
  · have hc : ∀ i, c ≠ .cancel i := fun i h => hc ⟨i, h⟩
    obtain ⟨hjobs, hqueue, hactivity⟩ := (called s c).extends hc
    refine ⟨j, getElem?_of_isPrefix hjobs hjob, .kept ?_ (by simp) (fun h => hqueue.mem h) ?_ ?_⟩
    · intro ha
      exact absurd (Action.call.inj ha) (hc job)
    · rw [hactivity]
      exact id
    · rw [hactivity]
      exact id

/-- `Resumed` keeps a job, or ends it as the printer lets it. -/
theorem Resumed.jobs_cases {i : Nat} {segments : List (List UInt8)} (h : Resumed s i segments s') :
    s'.queue = s.queue ∧ ((s'.jobs = s.jobs ∧ s'.activity.job? = some i) ∨
      ∃ r, FromPrinter r ∧ s'.jobs = outcomes s.jobs i r) := by
  cases h with
  | writing => exact ⟨rfl, .inl ⟨rfl, rfl⟩⟩
  | flushing => exact ⟨rfl, .inl ⟨rfl, rfl⟩⟩
  | completed =>
    rw [completeJob_eq]
    exact ⟨rfl, .inr ⟨.ok (), .inl rfl, rfl⟩⟩
  | failed segments e =>
    rw [faultJob_eq]
    exact ⟨rfl, .inr ⟨.error (.connection e), .inr ⟨e, rfl⟩, rfl⟩⟩

/-- A step of the worker keeps a job that it does not deal with. -/
theorem Moved.of_other (hnext : s.nextJob? ≠ some job) (hactive : s.activity.job? ≠ some job)
    (hstopped : s.activity ≠ .stopped) (hqueue : .print job ∈ s.queue → .print job ∈ s'.queue) :
    Moved s s' .work job j j :=
  .kept (by simp) (fun _ => hnext) hqueue (fun h => absurd h hactive) fun h => absurd h hstopped

section
variable {queue : List Request}

theorem moved_of_take {request : Request} (hact : s.activity = .waiting)
    (hqueue : s.queue = request :: queue) (hqueue' : s'.queue = queue)
    (hother : request.job? ≠ some job) : Moved s s' .work job j j := by
  refine .of_other ?_ (by simp [hact, Activity.job?]) (by simp [hact]) fun hmem => ?_
  · rw [nextJob?_of_cons hact hqueue]
    exact hother
  · rw [hqueue] at hmem
    rw [hqueue']
    refine (List.mem_cons.1 hmem).resolve_left ?_
    rintro rfl
    exact hother rfl

theorem moved_of_ending {i : Nat} (hactive : s.activity.job? = some i) (hqueue : s'.queue = s.queue)
    {r : PrintResult} (hr : FromPrinter r) (hjobs : s'.jobs = outcomes s.jobs i r)
    (hjob : s.jobs[job]? = some j) : ∃ j', s'.jobs[job]? = some j' ∧ Moved s s' .work job j j' := by
  have hbusy : s.activity ≠ .waiting ∧ s.activity ≠ .stopped := by
    constructor <;> intro hact <;> simp [hact, Activity.job?] at hactive
  rw [hjobs]
  by_cases hi : i = job
  · subst hi
    exact ⟨_, getElem?_outcomes_self hjob r, .ended r rfl hactive hr⟩
  · refine ⟨j, (getElem?_outcomes_other hi r).trans hjob, .of_other ?_ ?_ hbusy.2 ?_⟩
    · rw [nextJob?_of_busy hbusy.1]
      simp
    · rw [hactive]
      simpa using hi
    · rw [hqueue]
      exact id

end

theorem Worked.moved (h : Worked s s') (hjob : s.jobs[job]? = some j) :
    ∃ j', s'.jobs[job]? = some j' ∧ Moved s s' .work job j j' := by
  cases h with
  | kept config ticket queue hact hqueue =>
    exact ⟨j, hjob, moved_of_take hact hqueue rfl (by simp [Request.job?])⟩
  | closed request ticket queue hact hqueue hcloses =>
    exact ⟨j, hjob, moved_of_take hact hqueue rfl (by simp [hcloses.job?_eq_none])⟩
  | opening config ticket queue hact hqueue =>
    rw [startConnect_eq]
    exact ⟨j, hjob, moved_of_take hact hqueue rfl (by simp [Request.job?])⟩
  | opened ticket channel due hact =>
    have hnext : s.nextJob? = none := nextJob?_of_busy (by simp [hact])
    exact ⟨j, hjob, .of_other (by simp [hnext]) (by simp [hact, Activity.job?]) (by simp [hact]) id⟩
  | openFailed ticket channel due e hact =>
    have hnext : s.nextJob? = none := nextJob?_of_busy (by simp [hact])
    exact ⟨j, hjob, .of_other (by simp [hnext]) (by simp [hact, Activity.job?]) (by simp [hact]) id⟩
  | unknown i queue hact hqueue hi =>
    refine ⟨j, hjob, moved_of_take hact hqueue rfl fun heq => ?_⟩
    cases heq
    rw [hi] at hjob
    cases hjob
  | skipped i ji queue hact hqueue hi hphase =>
    by_cases hne : i = job
    · subst hne
      rw [hi] at hjob
      cases hjob
      exact ⟨_, getElem?_outcomes_self hi _,
        .skipped rfl (nextJob?_of_cons hact hqueue) hphase ⟨rfl, rfl, rfl, rfl, rfl⟩⟩
    · exact ⟨j, (getElem?_outcomes_other hne _).trans hjob,
        moved_of_take hact hqueue rfl (by simpa [Request.job?] using hne)⟩
  | refused i ji e queue hact hqueue hi hphase hrefuses =>
    rw [finishJob_eq]
    by_cases hne : i = job
    · subst hne
      rw [hi] at hjob
      cases hjob
      exact ⟨_, getElem?_outcomes_self (getElem?_startJob_self hi queue) _,
        .refused e rfl (nextJob?_of_cons hact hqueue) hphase hrefuses ⟨rfl, rfl, rfl, rfl, rfl⟩⟩
    · refine ⟨j, ?_, moved_of_take hact hqueue rfl (by simpa [Request.job?] using hne)⟩
      exact (getElem?_outcomes_other hne _).trans ((getElem?_startJob_other hne queue).trans hjob)
  | started i ji segments queue _ hact hqueue hi hphase hsegments hstage hconnected hr =>
    have hstarted : (s.beginJob queue i).jobs = (s.startJob queue i).jobs := rfl
    obtain ⟨hqueue', hjobs⟩ := hr.jobs_cases
    rw [hstarted] at hjobs
    by_cases hne : i = job
    · subst hne
      rw [hi] at hjob
      cases hjob
      have hself := getElem?_startJob_self hi queue
      obtain ⟨hjobs, hactive⟩ | ⟨r, hfrom, hjobs⟩ := hjobs
      · exact ⟨_, by rw [hjobs, hself],
          .started rfl (nextJob?_of_cons hact hqueue) hphase hconnected hactive⟩
      · exact ⟨_, by rw [hjobs, getElem?_outcomes_self hself],
          .rushed r rfl (nextJob?_of_cons hact hqueue) hphase hconnected hfrom⟩
    · have hother := (getElem?_startJob_other hne queue).trans hjob
      refine ⟨j, ?_, moved_of_take hact hqueue hqueue' (by simpa [Request.job?] using hne)⟩
      obtain ⟨hjobs, -⟩ | ⟨r, -, hjobs⟩ := hjobs
      · rw [hjobs, hother]
      · rw [hjobs, getElem?_outcomes_other hne, hother]
  | wrote i segment rest due channel _ hact hlive hfault hr =>
    have hactive : s.activity.job? = some i := by rw [hact]; rfl
    obtain ⟨hqueue', ⟨hjobs, hactive'⟩ | ⟨r, hfrom, hjobs⟩⟩ := hr.jobs_cases
    · refine ⟨j, by rw [hjobs, hjob], .kept (by simp) (fun _ => ?_) ?_ ?_ (by simp [hact])⟩
      · rw [nextJob?_of_busy (by simp [hact])]
        simp
      · rw [hqueue']
        exact id
      · rw [hactive, hactive']
        exact id
    · exact moved_of_ending hactive hqueue' hfrom hjobs hjob
  | writeFailed i segment rest due late e hact =>
    rw [faultJob_eq]
    exact moved_of_ending (by rw [hact]; rfl) rfl (.inr ⟨e, rfl⟩) rfl hjob
  | flushed i due hact =>
    refine ⟨j, hjob, .kept (by simp) (fun _ => ?_) id ?_ (by simp [hact])⟩
    · rw [nextJob?_of_busy (by simp [hact])]
      simp
    · rw [hact]
      exact id
  | flushFailed i due late e hact =>
    rw [faultJob_eq]
    exact moved_of_ending (by rw [hact]; rfl) rfl (.inr ⟨e, rfl⟩) rfl hjob
  | drained i due hact =>
    rw [completeJob_eq]
    exact moved_of_ending (by rw [hact]; rfl) rfl (.inl rfl) rfl hjob

theorem getElem?_abandonedJobs (queue : List Request) {jobs : List Job}
    (hjob : jobs[job]? = some j) :
    (.print job ∉ queue ∧ (abandonedJobs queue jobs)[job]? = some j) ∨
    (.print job ∈ queue ∧
      (abandonedJobs queue jobs)[job]? = some { j with outcome := some (.error .closed) }) := by
  induction queue generalizing jobs j with
  | nil => exact .inl ⟨by simp, hjob⟩
  | cons request queue ih =>
    have hskip : request.job? = none →
        abandonedJobs (request :: queue) jobs = abandonedJobs queue jobs := by
      cases request <;> simp [Request.job?, abandonedJobs]
    cases request with
    | print i =>
      have hfirst : abandonedJobs (.print i :: queue) jobs =
          abandonedJobs queue (outcomes jobs i (.error .closed)) := rfl
      rw [hfirst]
      by_cases hne : i = job
      · subst hne
        refine .inr ⟨List.mem_cons_self, ?_⟩
        obtain ⟨-, h⟩ | ⟨-, h⟩ := ih (getElem?_outcomes_self hjob (.error .closed))
        · exact h
        · exact h
      · have hmem : (Request.print job ∈ Request.print i :: queue) ↔ Request.print job ∈ queue := by
          simp [Ne.symm hne]
        rw [hmem]
        exact ih ((getElem?_outcomes_other hne _).trans hjob)
    | configure config ticket => simpa [hskip rfl] using ih hjob
    | connect config ticket => simpa [hskip rfl] using ih hjob
    | disconnect ticket => simpa [hskip rfl] using ih hjob

/-- A worker that has a job to take can take it. -/
theorem nextJob?_of_work_eq_none (h : s.work = none) : s.nextJob? = none := by
  cases hnext : s.nextJob? with
  | none => rfl
  | some i =>
    obtain ⟨hact, queue, hqueue⟩ := nextJob?_eq_some hnext
    have hdue : s.due? = none := by rw [due?, hact]
    simp [work, hdue, hact, takeRequest, hqueue] at h

/-- Every action has `Moved` every job. -/
theorem moved (a : Action) (hjob : s.jobs[job]? = some j) :
    ∃ j', (s.act a).jobs[job]? = some j' ∧ Moved s (s.act a) a job j j' := by
  cases a with
  | call c => exact moved_call c hjob
  | work =>
    cases h : s.work with
    | none =>
      rw [act_work_of_none h]
      refine ⟨j, hjob, .kept (by simp) (fun _ => ?_) id id id⟩
      simp [nextJob?_of_work_eq_none h]
    | some s' =>
      rw [act_work_of_some h]
      exact (worked h).moved hjob
  | stop =>
    cases h : s.stop with
    | none =>
      rw [act_stop_of_none h]
      exact ⟨j, hjob, .kept (by simp) (by simp) id id id⟩
    | some s' =>
      rw [act_stop_of_some h]
      obtain ⟨-, hwaiting, rfl⟩ := stop_eq_some_iff.1 h
      obtain ⟨hnot, hkept⟩ | ⟨hmem, hclosed⟩ := getElem?_abandonedJobs s.queue hjob
      · refine ⟨j, hkept, .kept (by simp) (by simp) (fun hmem => absurd hmem hnot) ?_ fun _ => rfl⟩
        simp [hwaiting, Activity.job?]
      · exact ⟨_, hclosed, .abandoned rfl hwaiting hmem rfl⟩
  | change c => exact ⟨j, hjob, .kept (by simp) (by simp) id id id⟩
  | advance ms => exact ⟨j, hjob, .kept (by simp) (by simp) id id id⟩

end Spooler

end ReceiptPrinter

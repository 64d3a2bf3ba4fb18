import ReceiptPrinter.Proofs.Spooler.Coherent

/-!
# One connect at a time

A request to connect is outstanding while it is queued and while the worker opens the connection.
The stage `connecting` keeps callers from making another one. The worker leaves that stage early
when it closes the connection for a request that was queued before. So a run is `Guarded` throughout
exactly if, while a request is outstanding, the worker closes no connection (`Resets`) and the
configuration stays installed.
-/

namespace ReceiptPrinter

def Request.isConnect : Request → Bool
  | .connect .. => true
  | _ => false

def Activity.isOpening : Activity → Bool
  | .opening .. => true
  | _ => false

namespace Spooler

variable {s s' : Spooler}

/-- The number of outstanding requests to connect. -/
def connects (s : Spooler) : Nat :=
  s.queue.countP Request.isConnect + if s.activity.isOpening then 1 else 0

/-- Whether at most one request to connect is outstanding, and only in the stage `connecting`. -/
def Single (s : Spooler) : Prop := 0 < s.connects → s.connects = 1 ∧ s.stage = .connecting

/-- Whether, while a request to connect is outstanding, it is the only one, the stage is
`connecting`, and another call to connect learns of the attempt and has no effect. -/
def Guarded (s : Spooler) : Prop :=
  0 < s.connects → s.connects = 1 ∧ s.stage = .connecting ∧
    s.connect = (.done (.error .alreadyInProgress), s)

/-- Whether the worker closes the connection next. -/
def Resets (s : Spooler) : Prop :=
  s.activity = .waiting ∧ ∃ request queue, s.queue = request :: queue ∧ s.Closes request

/-- In the stage `connecting` a call to connect learns of the attempt exactly if a configuration is
installed. -/
theorem connect_eq_alreadyInProgress_iff (h : s.stage = .connecting) :
    s.connect = (.done (.error .alreadyInProgress), s) ↔ s.config ≠ none := by
  unfold connect requireConfig
  cases s.config with
  | none => simp
  | some config => simp [h]

theorem guarded_iff_single : s.Guarded ↔ s.Single ∧ (0 < s.connects → s.config ≠ none) := by
  constructor
  · intro h
    refine ⟨fun hpos => ?_, fun hpos => ?_⟩
    · obtain ⟨hone, hstage, -⟩ := h hpos
      exact ⟨hone, hstage⟩
    · obtain ⟨-, hstage, hconnect⟩ := h hpos
      exact (connect_eq_alreadyInProgress_iff hstage).1 hconnect
  · intro ⟨hsingle, hconfig⟩ hpos
    obtain ⟨hone, hstage⟩ := hsingle hpos
    exact ⟨hone, hstage, (connect_eq_alreadyInProgress_iff hstage).2 (hconfig hpos)⟩

/-! ### What keeps the guard -/

theorem countP_isConnect_concat (queue : List Request) (request : Request) :
    (queue ++ [request]).countP Request.isConnect =
      queue.countP Request.isConnect + if request.isConnect then 1 else 0 := by
  rw [List.countP_append, List.countP_singleton]

theorem Single.of_eq (h : s.Single) (hconnects : s'.connects = s.connects)
    (hstage : s'.stage = s.stage) : s'.Single := by
  unfold Single
  rw [hconnects, hstage]
  exact h

theorem Single.of_none (h : s'.connects = 0) : s'.Single := by
  intro hpos
  omega

theorem Single.called (h : s.Single) {c : Call} {answer : Answer} (hc : Called s c answer s') :
    s'.Single := by
  cases hc with
  | connectClosed config hconfig hstage hclosed =>
    refine .of_none ?_
    by_contra hne
    have hconnects : ((s.enter .connecting).enter .faulted).connects = s.connects := by
      rw [enter_eq, enter_eq]
      rfl
    obtain ⟨-, hconnecting⟩ := h (by omega)
    rcases hstage with hstage | hstage <;> rw [hstage] at hconnecting <;> cases hconnecting
  | connecting config hconfig hstage hopen =>
    -- before the call nothing is outstanding
    have hnone : s.connects = 0 := by
      by_contra hne
      obtain ⟨-, hconnecting⟩ := h (by omega)
      rcases hstage with hstage | hstage <;> rw [hstage] at hconnecting <;> cases hconnecting
    refine fun _ => ⟨?_, rfl⟩
    show (s.queue ++ [Request.connect config s.tickets.length]).countP Request.isConnect +
      (if s.activity.isOpening then 1 else 0) = 1
    have hrequest : (Request.connect config s.tickets.length).isConnect = true := rfl
    rw [countP_isConnect_concat, if_pos hrequest]
    unfold connects at hnone
    omega
  | configured => exact h.of_eq (by simp [connects, Request.isConnect]) rfl
  | disconnecting => exact h.of_eq (by simp [connects, Request.isConnect]) rfl
  | accepted => exact h.of_eq (by simp [connects, Request.isConnect]) rfl
  | _ => exact h.of_eq rfl rfl

/-- While a job is printed no request to connect is outstanding. -/
theorem Single.connects_of_job (h : s.Single) (hcoherent : s.Coherent) (job : Nat)
    (hjob : s.activity.job? = some job) : s.connects = 0 := by
  by_contra hne
  obtain ⟨-, hconnecting⟩ := h (by omega)
  rw [(hcoherent.printing job hjob).1] at hconnecting
  cases hconnecting

theorem connects_faultJob_le (s : Spooler) (job : Nat) (e : ConnectionError) :
    (s.faultJob job e).connects ≤ s.connects := by
  rw [faultJob_eq]
  simp [connects, Activity.isOpening]

theorem connects_completeJob_le (s : Spooler) (job : Nat) :
    (s.completeJob job).connects ≤ s.connects := by
  rw [completeJob_eq]
  simp [connects, Activity.isOpening]

theorem connects_le_of_resumed {job : Nat} {segments : List (List UInt8)}
    (hr : Resumed s job segments s') : s'.connects ≤ s.connects := by
  cases hr with
  | writing => simp [connects, Activity.isOpening]
  | flushing => simp [connects, Activity.isOpening]
  | completed => exact connects_completeJob_le s job
  | failed => exact connects_faultJob_le s job _

theorem connects_of_cons {request : Request} {queue : List Request}
    (hqueue : s.queue = request :: queue) (hrequest : request.isConnect = false) :
    s.connects = queue.countP Request.isConnect + if s.activity.isOpening then 1 else 0 := by
  rw [connects, hqueue, List.countP_cons_of_neg (by simp [hrequest])]

theorem Single.worked (h : s.Single) (hcoherent : s.Coherent) (hw : Worked s s')
    (hresets : s.Resets → s.connects = 0) : s'.Single := by
  cases hw with
  | kept config ticket queue hact hqueue hsame =>
    exact h.of_eq (connects_of_cons hqueue rfl).symm rfl
  | closed request ticket queue hact hqueue hcloses =>
    have hnone := hresets ⟨hact, request, queue, hqueue, hcloses⟩
    have hrequest : request.isConnect = false := by
      cases request with
      | connect => exact hcloses.elim
      | _ => rfl
    rw [connects_of_cons hqueue hrequest] at hnone
    exact .of_none hnone
  | opening config ticket queue hact hqueue =>
    refine h.of_eq ?_ rfl
    rw [connects, connects, startConnect_eq, hqueue, hact]
    rw [List.countP_cons_of_pos rfl]
    rfl
  | opened ticket channel due hact hfault =>
    refine .of_none ?_
    have hopening : s.connects = s.queue.countP Request.isConnect + 1 := by
      rw [connects, hact]
      rfl
    obtain ⟨hone, -⟩ := h (by omega)
    show s.queue.countP Request.isConnect + 0 = 0
    omega
  | openFailed ticket channel due e hact hfault =>
    refine .of_none ?_
    have hopening : s.connects = s.queue.countP Request.isConnect + 1 := by
      rw [connects, hact]
      rfl
    obtain ⟨hone, -⟩ := h (by omega)
    show s.queue.countP Request.isConnect + 0 = 0
    omega
  | unknown job queue hact hqueue hjob => exact h.of_eq (connects_of_cons hqueue rfl).symm rfl
  | skipped job j queue hact hqueue hjob hphase =>
    exact h.of_eq (connects_of_cons hqueue rfl).symm rfl
  | refused job j e queue hact hqueue hjob hphase hrefuses =>
    exact h.of_eq (connects_of_cons hqueue rfl).symm rfl
  | started job j segments queue _ hact hqueue hjob hphase hsegments hstage hconnected hr =>
    have hnone : s.connects = 0 := by
      by_contra hne
      obtain ⟨-, hconnecting⟩ := h (by omega)
      rw [hconnecting] at hstage
      cases hstage
    have hle := connects_le_of_resumed hr
    have hbegin : (s.beginJob queue job).connects = s.connects :=
      (connects_of_cons hqueue rfl).symm
    exact .of_none (by omega)
  | wrote job segment rest due channel _ hact hlive hfault hr =>
    have hnone := h.connects_of_job hcoherent job (by rw [hact]; rfl)
    have hle : s'.connects ≤ connects { s with link := s.link.deliver channel segment } :=
      connects_le_of_resumed hr
    have hdelivered : connects { s with link := s.link.deliver channel segment } = s.connects := rfl
    exact .of_none (by omega)
  | writeFailed job segment rest due late e hact =>
    have hnone := h.connects_of_job hcoherent job (by rw [hact]; rfl)
    have hle := connects_faultJob_le s job e
    exact .of_none (by omega)
  | flushed job due hact =>
    have hnone := h.connects_of_job hcoherent job (by rw [hact]; rfl)
    rw [connects, hact] at hnone
    exact .of_none hnone
  | flushFailed job due late e hact =>
    have hnone := h.connects_of_job hcoherent job (by rw [hact]; rfl)
    have hle := connects_faultJob_le s job e
    exact .of_none (by omega)
  | drained job due hact =>
    have hnone := h.connects_of_job hcoherent job (by rw [hact]; rfl)
    have hle := connects_completeJob_le s job
    exact .of_none (by omega)

theorem Single.happened (h : s.Single) (hcoherent : s.Coherent) {a : Action}
    (ha : Happened s a s') (hresets : a = .work → s.Resets → s.connects = 0) : s'.Single := by
  cases ha with
  | call c answer _ hc => exact h.called hc
  | work _ hw => exact h.worked hcoherent hw (hresets rfl)
  | stop => exact .of_none rfl
  | change => exact h.of_eq rfl rfl
  | advance => exact h.of_eq rfl rfl
  | nothing => exact h

/-! ### What breaks it -/

/-- The worker that `Resets` the connection leaves the stage `connecting` and what is outstanding.
-/
theorem Resets.act_work (h : s.Resets) :
    (s.act .work).stage = .idle ∧ (s.act .work).connects = s.connects := by
  obtain ⟨hact, request, queue, hqueue, hcloses⟩ := h
  have hwork : s.work = some ({ s with queue }.handle request) := by
    have hdue : s.due? = none := by rw [due?, hact]
    rw [work, hdue, Option.any_none, if_neg Bool.false_ne_true]
    simp only [hact, takeRequest, hqueue]
  rw [act, hwork, Option.getD_some]
  cases request with
  | disconnect ticket =>
    rw [handle, closeConnection_enter_eq]
    exact ⟨rfl, (connects_of_cons hqueue rfl).symm⟩
  | configure config ticket =>
    obtain ⟨target, htarget, hother⟩ := hcloses
    have hdropped : ({ s with queue } : Spooler).dropStale config =
        ({ s with queue } : Spooler).closeConnection.enter .idle :=
      if_pos (by rw [htarget, Option.any_some, hother]; rfl)
    rw [handle, hdropped, closeConnection_enter_eq]
    exact ⟨rfl, (connects_of_cons hqueue rfl).symm⟩
  | connect => exact hcloses.elim
  | print => exact hcloses.elim

theorem Resets.connects_eq_zero (h : s.Resets) (hsingle : (s.act .work).Single) :
    s.connects = 0 := by
  obtain ⟨hstage, hconnects⟩ := h.act_work
  by_contra hne
  obtain ⟨-, hconnecting⟩ := hsingle (by omega)
  rw [hstage] at hconnecting
  cases hconnecting

variable (writeDeadline drainDelay : Nat)

/-- `Single` holds throughout a run exactly if the worker `Resets` no connection while a request to
connect is outstanding. -/
theorem single_iff_no_reset (actions : List Action) :
    (∀ before, before <+: actions → ((start writeDeadline drainDelay).run before).Single) ↔
      ∀ before, before ++ [.work] <+: actions →
        ((start writeDeadline drainDelay).run before).Resets →
          ((start writeDeadline drainDelay).run before).connects = 0 := by
  constructor
  · intro h before hprefix hresets
    have hafter := h _ hprefix
    rw [run_concat] at hafter
    exact hresets.connects_eq_zero hafter
  · intro h before hprefix
    induction before using List.reverseRecOn with
    | nil => exact .of_none rfl
    | append_singleton before a ih =>
      have hshorter := (List.prefix_append before [a]).trans hprefix
      rw [run_concat]
      refine (ih hshorter).happened (coherent_run writeDeadline drainDelay before)
        (happened _ a) ?_
      rintro rfl
      exact h before hprefix

/-- `Guarded` holds throughout a run exactly if, while a request to connect is outstanding, the
worker `Resets` no connection and the configuration stays installed. -/
theorem guarded_iff_undisturbed (actions : List Action) :
    (∀ before, before <+: actions → ((start writeDeadline drainDelay).run before).Guarded) ↔
      (∀ before, before ++ [.work] <+: actions →
        ((start writeDeadline drainDelay).run before).Resets →
          ((start writeDeadline drainDelay).run before).connects = 0) ∧
      ∀ before, before <+: actions → 0 < ((start writeDeadline drainDelay).run before).connects →
        ((start writeDeadline drainDelay).run before).config ≠ none := by
  rw [← single_iff_no_reset]
  constructor
  · intro h
    refine ⟨fun before hprefix => ?_, fun before hprefix => ?_⟩
    · exact (guarded_iff_single.1 (h before hprefix)).1
    · exact (guarded_iff_single.1 (h before hprefix)).2
  · intro ⟨hsingle, hconfig⟩ before hprefix
    exact guarded_iff_single.2 ⟨hsingle before hprefix, hconfig before hprefix⟩

/-- A request to disconnect that is queued before one to connect ends the stage `connecting`, and a
second request to connect joins the first. -/
theorem two_connects_outstanding :
    ((start 1000 100).run [.call .disconnect, .call (.configure { host := some "a".toList }),
      .call .connect, .work]).stage = .idle ∧
    ((start 1000 100).run [.call .disconnect, .call (.configure { host := some "a".toList }),
      .call .connect, .work]).connects = 1 ∧
    ((start 1000 100).run [.call .disconnect, .call (.configure { host := some "a".toList }),
      .call .connect, .work, .call .connect]).connects = 2 :=
  ⟨rfl, rfl, rfl⟩

end Spooler

end ReceiptPrinter

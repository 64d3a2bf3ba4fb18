import ReceiptPrinter.Proofs.Spooler.Run

/-!
# Spooler and connection

`Coherent`: in every run the channel held by the connection is open and leads to the printer that
the connection was opened for, and a job is only printed in the stage `printing` over such a
channel.
-/

namespace ReceiptPrinter

/-- The job that the worker prints. -/
def Activity.job? : Activity → Option Nat
  | .writing job .. | .flushing job .. | .draining job _ => some job
  | .waiting | .opening .. | .stopped => none

namespace Spooler

variable {s s' : Spooler}

/-- Whether `channel` leads to the printer that the connection was opened for. -/
def LeadsTo (s : Spooler) (channel : Channel) : Prop :=
  ∃ target, s.connection.target = some target ∧ s.link.targets[channel.number]? = some target

/-- Whether the connection is open and holds a channel. -/
def Connected (s : Spooler) : Prop :=
  s.connection.state = .connected ∧ ∃ channel, s.connection.channel = some channel

/-- How spooler and connection fit together. -/
structure Coherent (s : Spooler) : Prop where
  channel : ∀ channel, s.connection.channel = some channel →
    channel.isOpen = true ∧ s.LeadsTo channel
  opening : ∀ ticket channel due, s.activity = .opening ticket channel due →
    s.connection.channel = none ∧ s.LeadsTo channel
  printing : ∀ job, s.activity.job? = some job → s.stage = .printing ∧ s.Connected

theorem coherent_start (writeDeadline drainDelay : Nat) :
    (start writeDeadline drainDelay).Coherent where
  channel := by simp [start]
  opening := by simp [start]
  printing := by simp [start, Activity.job?]

/-- Between two requests and without a channel there is nothing to fit. -/
theorem Coherent.of_no_channel (hchannel : s.connection.channel = none)
    (hopening : ∀ ticket channel due, s.activity ≠ .opening ticket channel due)
    (hjob : s.activity.job? = none) : s.Coherent where
  channel := by simp [hchannel]
  opening := fun ticket channel due hact => absurd hact (hopening ticket channel due)
  printing := by simp [hjob]

theorem coherent_faultJob (s : Spooler) (job : Nat) (e : ConnectionError) :
    (s.faultJob job e).Coherent := by
  rw [faultJob_eq]
  exact .of_no_channel rfl (by simp) rfl

theorem Coherent.completeJob (h : s.Coherent) (job : Nat) : (s.completeJob job).Coherent := by
  rw [completeJob_eq]
  exact ⟨h.channel, by simp, by simp [Activity.job?]⟩

theorem Coherent.resumed (h : s.Coherent) {job : Nat} {segments : List (List UInt8)}
    (hstage : s.stage = .printing) (hconnected : s.Connected) (hr : Resumed s job segments s') :
    s'.Coherent := by
  cases hr with
  | writing => exact ⟨h.channel, by simp, fun _ _ => ⟨hstage, hconnected⟩⟩
  | flushing => exact ⟨h.channel, by simp, fun _ _ => ⟨hstage, hconnected⟩⟩
  | completed => exact h.completeJob job
  | failed e => exact coherent_faultJob s job _

theorem Coherent.called (h : s.Coherent) {c : Call} {answer : Answer} (hc : Called s c answer s') :
    s'.Coherent := by
  cases hc with
  | connectClosed config hconfig hstage hclosed =>
    have hact : s.activity = .stopped := beq_iff_eq.1 hclosed
    rw [enter_eq, enter_eq]
    exact ⟨h.channel, h.opening, by simp [hact, Activity.job?]⟩
  | connecting config hconfig hstage hopen =>
    refine ⟨h.channel, h.opening, fun job hjob => ?_⟩
    rw [(h.printing job hjob).1] at hstage
    rcases hstage with hstage | hstage <;> cases hstage
  | _ => exact ⟨h.channel, h.opening, h.printing⟩

theorem connected_of_isConnected (h : s.connection.isConnected s.link = true) : s.Connected := by
  obtain ⟨hstate, hchannel⟩ := Bool.and_eq_true_iff.1 h
  obtain ⟨channel, hsome, -⟩ := (Option.any_eq_true _ _).1 hchannel
  exact ⟨beq_iff_eq.1 hstate, channel, hsome⟩

theorem Coherent.worked (h : s.Coherent) (hw : Worked s s') : s'.Coherent := by
  cases hw with
  | closed request ticket queue hact =>
    exact .of_no_channel rfl (by simp [hact]) (by simp [hact, Activity.job?])
  | opening config ticket queue hact hqueue =>
    rw [startConnect_eq]
    refine ⟨by simp, fun t channel due heq => ⟨rfl, ?_⟩, by simp [Activity.job?]⟩
    cases heq
    exact ⟨config.target, rfl, List.getElem?_concat_length⟩
  | opened ticket channel due hact hfault =>
    obtain ⟨-, target, htarget, hnumber⟩ := h.opening ticket channel due hact
    refine ⟨fun c hc => ?_, by simp, by simp [Activity.job?]⟩
    cases hc
    exact ⟨rfl, target, htarget, by simpa using hnumber⟩
  | openFailed ticket channel due e hact hfault =>
    exact .of_no_channel (h.opening ticket channel due hact).1 (by simp) rfl
  | started job j segments queue _ hact hqueue hjob hphase hsegments hstage hconnected hr =>
    refine Coherent.resumed ?_ ?_ ?_ hr
    · exact ⟨h.channel, h.opening, by simp [beginJob, startJob, hact, Activity.job?]⟩
    · rfl
    · exact connected_of_isConnected hconnected
  | wrote job segment rest due channel _ hact hlive hfault hr =>
    obtain ⟨hstage, hconnected⟩ := h.printing job (by rw [hact]; rfl)
    refine Coherent.resumed ?_ ?_ ?_ hr
    · exact ⟨h.channel, h.opening, h.printing⟩
    · exact hstage
    · exact hconnected
  | writeFailed => exact coherent_faultJob s _ _
  | flushed job due hact =>
    have hprinting := h.printing job (by rw [hact]; rfl)
    exact ⟨h.channel, by simp, fun _ _ => hprinting⟩
  | flushFailed => exact coherent_faultJob s _ _
  | drained => exact h.completeJob _
  | _ => exact ⟨h.channel, h.opening, h.printing⟩

theorem Coherent.happened (h : s.Coherent) {a : Action} (ha : Happened s a s') : s'.Coherent := by
  cases ha with
  | call c answer _ hc => exact h.called hc
  | work _ hw => exact h.worked hw
  | stop => exact .of_no_channel rfl (by simp) rfl
  | change c =>
    refine ⟨fun channel hchannel => ?_, fun t channel due hact => ?_, h.printing⟩
    · obtain ⟨hopen, target, htarget, hnumber⟩ := h.channel channel hchannel
      exact ⟨hopen, target, htarget, by simpa using hnumber⟩
    · obtain ⟨hnone, target, htarget, hnumber⟩ := h.opening t channel due hact
      exact ⟨hnone, target, htarget, by simpa using hnumber⟩
  | advance => exact ⟨h.channel, h.opening, h.printing⟩
  | nothing => exact h

/-- `Coherent` holds in every run. -/
theorem coherent_run (writeDeadline drainDelay : Nat) (actions : List Action) :
    ((start writeDeadline drainDelay).run actions).Coherent :=
  run_induction (coherent_start writeDeadline drainDelay) (fun _ _ _ h ha => h.happened ha) actions

end Spooler

end ReceiptPrinter

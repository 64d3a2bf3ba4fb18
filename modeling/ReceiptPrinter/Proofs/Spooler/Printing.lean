import ReceiptPrinter.Proofs.Spooler.Agreement
import ReceiptPrinter.Proofs.Spooler.Lifecycle

/-!
# The printing of a job

While a job is printed the connection is `Live`, so that a write or a flush always starts; it can
only fail at its end. `Begins`: a job that passes all checks is begun with the write of its first
segment. `Proceeds`: an action leaves a job that is printed as it is, takes it to its next write,
its flush or its pause, completes it, or fails it with the error that the write or the flush
returned.
-/

namespace ReceiptPrinter

open Number

/-! ### Segments -/

namespace Receipt

/-- A receipt has a segment: the one that prepares the printer. -/
theorem encodeWithFeed_ne_nil {config : Config} {feedLines : Single} {es : List Element}
    {segments : List (List UInt8)} (h : encodeWithFeed config feedLines es = .ok segments) :
    segments ≠ [] := by
  unfold encodeWithFeed commandSegments at h
  cases hbody : bodySegments config [] es with
  | error e =>
    rw [hbody] at h
    cases h
  | ok body =>
    rw [hbody] at h
    cases h
    simp [preamble]

end Receipt

theorem Job.segments_ne_nil {j : Job} {segments : List (List UInt8)}
    (h : j.segments = .ok segments) : segments ≠ [] := by
  have hprints := Job.segments_eq_ok_iff.1 h
  cases hbody : j.body with
  | raw bytes =>
    rw [hbody] at hprints
    rw [hprints]
    simp
  | elements es feed =>
    rw [hbody] at hprints
    obtain ⟨encoded, hencoded, rfl⟩ := hprints
    have hne : encoded ≠ [] := by
      cases feed with
      | none => exact Receipt.encodeWithFeed_ne_nil hencoded
      | some lines => exact Receipt.encodeWithFeed_ne_nil hencoded
    exact List.append_ne_nil_of_left_ne_nil hne _

/-! ### Live connections -/

namespace Connection

variable {c : Connection}

/-- Whether the connection is open over an open channel. -/
def Live (c : Connection) : Prop := ∃ channel, c.liveChannel = .ok channel ∧ channel.isOpen = true

theorem Live.startWrite (h : c.Live) (link : Link) :
    c.startWrite link = .ok (c.flight link.writeDelay) := by
  obtain ⟨channel, hlive, hopen⟩ := h
  rw [Connection.startWrite, hlive]
  simp only [bind, Except.bind, Link.startWrite, hopen, if_true]
  rfl

theorem Live.startFlush (h : c.Live) (link : Link) :
    c.startFlush link = .ok (c.flight link.flushDelay) := by
  obtain ⟨channel, hlive, -⟩ := h
  rw [Connection.startFlush, hlive]
  rfl

end Connection

namespace Spooler

variable {s s' : Spooler} {a : Action} {job : Nat} {j : Job}

theorem Coherent.live (h : s.Coherent) (hconnected : s.Connected) : s.connection.Live := by
  obtain ⟨hstate, channel, hchannel⟩ := hconnected
  exact ⟨channel, Connection.liveChannel_eq_ok_iff.2 ⟨hstate, hchannel⟩,
    (h.channel channel hchannel).1⟩

/-- Over a live connection the worker writes the next segment or, after the last one, flushes or is
done. -/
theorem Resumed.of_live {segments : List (List UInt8)} (h : Resumed s job segments s')
    (hlive : s.connection.Live) :
    (∃ segment rest due late, segments = segment :: rest ∧
      s' = { s with activity := .writing job segment rest due late }) ∨
    (segments = [] ∧ s.drains job = true ∧ ∃ due late,
      s' = { s with activity := .flushing job due late }) ∨
    (segments = [] ∧ s.drains job = false ∧ s' = s.completeJob job) := by
  cases h with
  | writing segment rest flight => exact .inl ⟨segment, rest, _, _, rfl, rfl⟩
  | flushing flight hdrains => exact .inr (.inl ⟨rfl, hdrains, _, _, rfl⟩)
  | completed hdrains => exact .inr (.inr ⟨rfl, hdrains, rfl⟩)
  | failed segments e h =>
    obtain ⟨-, h⟩ | ⟨-, h⟩ := h
    · rw [hlive.startWrite] at h
      cases h
    · rw [hlive.startFlush] at h
      cases h

/-! ### Begins -/

/-- Whether a job passes all checks that stand before printing. -/
def passes (s : Spooler) (job : Nat) : Bool :=
  (s.jobs[job]?).any fun j =>
    j.start.1 && j.segments.isOk && s.stage.acceptsJobs && s.connection.isConnected s.link

/-- The job, if any, that passes all checks by an action. -/
def begun (s : Spooler) : Action → List Nat
  | .work => s.nextJob?.toList.filter s.passes
  | _ => []

theorem passes_iff (hjob : s.jobs[job]? = some j) : s.passes job = true ↔
    j.phase = .queued ∧ (∃ segments, j.segments = .ok segments) ∧
      s.stage.acceptsJobs = true ∧ s.connection.isConnected s.link = true := by
  have hstart : j.start.1 = true ↔ j.phase = .queued := by
    cases hphase : j.phase <;> simp [Job.start, hphase]
  have hsegments : j.segments.isOk = true ↔ ∃ segments, j.segments = .ok segments := by
    cases j.segments <;> simp [Except.isOk, Except.toBool]
  simp only [passes, hjob, Option.any_some, Bool.and_eq_true, hstart, hsegments, and_assoc]

theorem begun_work (hnext : s.nextJob? = some job) :
    s.begun .work = if s.passes job then [job] else [] := by
  rw [begun, hnext, Option.toList_some, List.filter_cons, List.filter_nil]

theorem begun_of_nextJob? (h : s.nextJob? = none) (a : Action) : s.begun a = [] := by
  cases a with
  | work => rw [begun, h]; rfl
  | _ => rfl

theorem begun_of_active (h : s.activity.job? = some job) (a : Action) : s.begun a = [] := by
  refine begun_of_nextJob? (nextJob?_of_busy fun hact => ?_) a
  rw [hact] at h
  cases h

/-- What an action does while no job is printed. -/
inductive Begins (s s' : Spooler) (a : Action) : Prop
  /-- Still no job is printed. -/
  | none (hbegun : s.begun a = []) (hactive : s'.activity.job? = none)
  /-- A job has passed all checks, and its first segment is written. -/
  | first (job : Nat) (segment : List UInt8) (rest : List (List UInt8)) (due : Nat) (late : Bool)
    (ha : a = .work) (hbegun : s.begun a = [job]) (hstage : s.stage = .ready)
    (hactivity : s'.activity = .writing job segment rest due late) (hstage' : s'.stage = .printing)
    (htransitions : s'.transitions = s.transitions ++ [.printing])

theorem begins_of_taken {request : Request} {queue : List Request} (hact : s.activity = .waiting)
    (hqueue : s.queue = request :: queue) (hother : request.job? = none)
    (hactive : s'.activity.job? = none) : Begins s s' .work :=
  .none (begun_of_nextJob? ((nextJob?_of_cons hact hqueue).trans hother) _) hactive

theorem begins_of_not_passes {queue : List Request} (hact : s.activity = .waiting)
    (hqueue : s.queue = .print job :: queue) (hpasses : s.passes job = false)
    (hactive : s'.activity.job? = none) : Begins s s' .work := by
  refine .none ?_ hactive
  rw [begun_work (nextJob?_of_cons hact hqueue), hpasses]
  rfl

theorem Stage.eq_ready {stage : Stage} (h : stage.acceptsJobs = true) (hne : stage ≠ .printing) :
    stage = .ready := by
  cases stage <;> simp_all [Stage.acceptsJobs]

theorem Worked.begins (h : Worked s s') (hcoherent : s.Coherent)
    (hagrees : s.activity = .waiting → s.Agrees) (hidle : s.activity.job? = none) :
    Begins s s' .work := by
  cases h with
  | kept config ticket queue hact hqueue => exact begins_of_taken hact hqueue rfl hidle
  | closed request ticket queue hact hqueue hcloses =>
    exact begins_of_taken hact hqueue hcloses.job?_eq_none hidle
  | opening config ticket queue hact hqueue =>
    rw [startConnect_eq]
    exact begins_of_taken hact hqueue rfl rfl
  | opened ticket channel due hact =>
    exact .none (begun_of_nextJob? (nextJob?_of_busy (by simp [hact])) _) rfl
  | openFailed ticket channel due e hact =>
    exact .none (begun_of_nextJob? (nextJob?_of_busy (by simp [hact])) _) rfl
  | unknown i queue hact hqueue hi =>
    exact begins_of_not_passes hact hqueue (by simp [passes, hi]) hidle
  | skipped i ji queue hact hqueue hi hphase =>
    refine begins_of_not_passes hact hqueue (Bool.eq_false_iff.2 fun hpasses => ?_) hidle
    exact hphase ((passes_iff hi).1 hpasses).1
  | refused i ji e queue hact hqueue hi hphase hrefuses =>
    refine begins_of_not_passes hact hqueue (Bool.eq_false_iff.2 fun hpasses => ?_) hidle
    obtain ⟨-, ⟨segments, hsegments⟩, hstage, hconnected⟩ := (passes_iff hi).1 hpasses
    obtain ⟨fault, hfault, -⟩ | ⟨-, -, hready, -⟩ := hrefuses
    · rw [hsegments] at hfault
      cases hfault
    · simp [hstage, hconnected] at hready
  | started i ji segments queue _ hact hqueue hi hphase hsegments hstage hconnected hr =>
    -- the job has a segment, so over a live connection it is written
    have hlive : (s.beginJob queue i).connection.Live :=
      hcoherent.live (connected_of_isConnected hconnected)
    have hready := Stage.eq_ready hstage (hagrees hact).not_printing
    obtain ⟨segment, rest, due, late, -, rfl⟩ | ⟨hnil, -⟩ | ⟨hnil, -⟩ := hr.of_live hlive
    · refine .first i segment rest due late rfl ?_ hready rfl rfl ?_
      · rw [begun_work (nextJob?_of_cons hact hqueue),
          (passes_iff hi).2 ⟨hphase, ⟨segments, hsegments⟩, hstage, hconnected⟩]
        rfl
      · exact if_neg (by simp [hready])
    · exact absurd hnil (Job.segments_ne_nil hsegments)
    · exact absurd hnil (Job.segments_ne_nil hsegments)
  | wrote i segment rest due channel _ hact => simp [hact, Activity.job?] at hidle
  | writeFailed i segment rest due late e hact => simp [hact, Activity.job?] at hidle
  | flushed i due hact => simp [hact, Activity.job?] at hidle
  | flushFailed i due late e hact => simp [hact, Activity.job?] at hidle
  | drained i due hact => simp [hact, Activity.job?] at hidle

theorem Called.activity {c : Call} {answer : Answer} (h : Called s c answer s') :
    s'.activity = s.activity := by
  cases h with
  | connectClosed => rw [enter_eq, enter_eq]
  | _ => rfl

theorem begins (hcoherent : s.Coherent) (hagrees : s.activity = .waiting → s.Agrees)
    (hidle : s.activity.job? = none) (a : Action) : Begins s (s.act a) a := by
  cases a with
  | work =>
    cases h : s.work with
    | none =>
      rw [act_work_of_none h]
      exact .none (begun_of_nextJob? (nextJob?_of_work_eq_none h) _) hidle
    | some s' =>
      rw [act_work_of_some h]
      exact (worked h).begins hcoherent hagrees hidle
  | call c =>
    refine .none rfl ?_
    show (s.call c).2.activity.job? = none
    rw [(called s c).activity, hidle]
  | stop =>
    refine .none rfl ?_
    cases h : s.stop with
    | none =>
      rw [act_stop_of_none h, hidle]
    | some s' =>
      rw [act_stop_of_some h]
      obtain ⟨-, -, rfl⟩ := stop_eq_some_iff.1 h
      rfl
  | change => exact .none rfl hidle
  | advance => exact .none rfl hidle

/-! ### Returns -/

/-- The worker takes no step before the time it waits for. -/
theorem work_eq_none_of_due (h : s.due?.any (s.now < ·) = true) : s.work = none := by
  rw [work, h]
  rfl

/-- What the write or the flush that ends by an action has returned. -/
def returned? (s : Spooler) : Action → Option (Except ConnectionError Unit)
  | .work =>
    if s.due?.any (s.now < ·) then none
    else
      match s.activity with
      | .writing _ segment _ _ late => some (s.connection.finishWrite s.link segment late).1
      | .flushing _ _ late => some (s.connection.finishFlush s.link late).1
      | _ => none
  | _ => none

/-- The job, if any, whose flush ends well by an action. -/
def flushed (s : Spooler) (a : Action) : List Nat :=
  match s.activity, s.returned? a with
  | .flushing job _ _, some (.ok ()) => [job]
  | _, _ => []

/-- What an action does while a job is printed. -/
inductive Proceeds (s s' : Spooler) (a : Action) (job : Nat) : Prop
  | waits (hreturned : s.returned? a = none) (hactivity : s'.activity = s.activity)
    (hstage : s'.stage = s.stage)
  | writes (segment : List UInt8) (rest : List (List UInt8)) (due : Nat) (late : Bool)
    (hreturned : s.returned? a = some (.ok ())) (hflushed : s.flushed a = [])
    (hactivity : s'.activity = .writing job segment rest due late) (hstage : s'.stage = s.stage)
  | flushes (due : Nat) (late : Bool) (hreturned : s.returned? a = some (.ok ()))
    (hflushed : s.flushed a = []) (hdrains : s.drains job = true)
    (hactivity : s'.activity = .flushing job due late) (hstage : s'.stage = s.stage)
  | drains (due : Nat) (hreturned : s.returned? a = some (.ok ())) (hflushed : s.flushed a = [job])
    (hactivity : s'.activity = .draining job due) (hstage : s'.stage = s.stage)
  | completes (ha : a = .work) (hreturned : ∀ e, s.returned? a ≠ some (.error e))
    (hflushed : s.flushed a = [])
    (hdrained : s.drains job = false ∨ ∃ due, s.activity = .draining job due)
    (hactivity : s'.activity = .waiting) (hstage : s'.stage = .ready)
    (hjobs : s'.jobs = outcomes s.jobs job (.ok ()))
  | fails (e : ConnectionError) (ha : a = .work) (hreturned : s.returned? a = some (.error e))
    (hdraining : ∀ due, s.activity ≠ .draining job due) (hwrote : s.wrote a = [])
    (hactivity : s'.activity = .waiting) (hstage : s'.stage = .faulted)
    (hjobs : s'.jobs = outcomes s.jobs job (.error (.connection e)))

/-- No call changes stage or activity while a job is printed. -/
theorem Called.printing {c : Call} {answer : Answer} (h : Called s c answer s')
    (hstage : s.stage = .printing) : s'.stage = s.stage := by
  cases h with
  | connectClosed config hconfig hcall => simp [hstage] at hcall
  | connecting config hconfig hcall => simp [hstage] at hcall
  | _ => rfl

theorem wrote_of_deliveries (h : (s.act a).link.deliveries = s.link.deliveries) :
    s.wrote a = [] := by
  obtain ⟨hwrote, -⟩ | ⟨i, segment, rest, channel, harrives, -⟩ := s.wrote_cases a
  · exact hwrote
  · rw [harrives.deliveries] at h
    simp at h

theorem proceeds_of_fault {e : ConnectionError} (hreturned : s.returned? .work = some (.error e))
    (hdraining : ∀ due, s.activity ≠ .draining job due) (hwork : s.work = some (s.faultJob job e)) :
    Proceeds s (s.act .work) .work job := by
  have hact : s.act .work = s.faultJob job e := act_work_of_some hwork
  have hwrote : s.wrote .work = [] := by
    refine wrote_of_deliveries ?_
    rw [hact, deliveries_faultJob]
  rw [hact, faultJob_eq]
  exact .fails e rfl hreturned hdraining hwrote rfl rfl rfl

section
variable (hdue : s.due?.any (s.now < ·) = false)

include hdue in
theorem proceeds_of_writing (hcoherent : s.Coherent) {segment : List UInt8}
    {rest : List (List UInt8)} {due : Nat} {late : Bool}
    (hactivity : s.activity = .writing job segment rest due late) :
    Proceeds s (s.act .work) .work job := by
  have hreturned : s.returned? .work =
      some (s.connection.finishWrite s.link segment late).1 := by
    rw [returned?, hactivity, hdue]
    rfl
  have hwork : s.work = some (s.finishWrite job segment rest late) := by
    rw [work, hactivity, hdue]
    rfl
  have hflushed : s.flushed .work = [] := by rw [flushed, hactivity]
  obtain ⟨e, h⟩ | ⟨channel, rfl, hlive, hfault, h⟩ :=
    s.connection.finishWrite_cases s.link segment late
  · rw [h] at hreturned
    refine proceeds_of_fault hreturned (by simp [hactivity]) ?_
    rw [hwork, finishWrite, h]
    rfl
  · rw [h] at hreturned
    have hact : s.act .work =
        ({ s with link := s.link.deliver channel segment } : Spooler).continueJob job rest := by
      rw [act, hwork, finishWrite, h]
      rfl
    have hconnected := (hcoherent.printing job (by rw [hactivity]; rfl)).2
    have hopen : ({ s with link := s.link.deliver channel segment } : Spooler).connection.Live :=
      hcoherent.live hconnected
    rw [hact]
    obtain ⟨next, rest', due', late', -, heq⟩ | ⟨-, hdrains, due', late', heq⟩ |
      ⟨-, hdrains, heq⟩ :=
      (resumed _ job rest).of_live hopen
    · rw [heq]
      exact .writes next rest' due' late' hreturned hflushed rfl rfl
    · rw [heq]
      exact .flushes due' late' hreturned hflushed hdrains rfl rfl
    · rw [heq, completeJob_eq]
      exact .completes rfl (by simp [hreturned]) hflushed (.inl hdrains) rfl rfl rfl

include hdue in
theorem proceeds_of_flushing {due : Nat} {late : Bool}
    (hactivity : s.activity = .flushing job due late) : Proceeds s (s.act .work) .work job := by
  have hreturned : s.returned? .work = some (s.connection.finishFlush s.link late).1 := by
    rw [returned?, hactivity, hdue]
    rfl
  have hwork : s.work = some (s.finishFlush job late) := by
    rw [work, hactivity, hdue]
    rfl
  obtain ⟨e, h⟩ | ⟨rfl, hfault, h⟩ := s.connection.finishFlush_cases s.link late
  · rw [h] at hreturned
    refine proceeds_of_fault hreturned (by simp [hactivity]) ?_
    rw [hwork, finishFlush, h]
    rfl
  · rw [h] at hreturned
    have hact : s.act .work = { s with activity := .draining job (s.now + s.drainDelay) } := by
      rw [act, hwork, finishFlush, h]
      rfl
    have hflushed : s.flushed .work = [job] := by rw [flushed, hactivity, hreturned]
    rw [hact]
    exact .drains _ hreturned hflushed rfl rfl

include hdue in
theorem proceeds_of_draining {due : Nat} (hactivity : s.activity = .draining job due) :
    Proceeds s (s.act .work) .work job := by
  have hreturned : s.returned? .work = none := by
    rw [returned?, hactivity, hdue]
    rfl
  have hact : s.act .work = s.completeJob job := by
    rw [act, work, hactivity, hdue]
    rfl
  have hflushed : s.flushed .work = [] := by rw [flushed, hactivity]
  rw [hact, completeJob_eq]
  exact .completes rfl (by simp [hreturned]) hflushed (.inr ⟨due, hactivity⟩) rfl rfl rfl

end

/-- `Proceeds` holds of every action while a job is printed. -/
theorem proceeds (hcoherent : s.Coherent) (hactive : s.activity.job? = some job) (a : Action) :
    Proceeds s (s.act a) a job := by
  cases a with
  | work =>
    cases hdue : s.due?.any (s.now < ·) with
    | true =>
      have hreturned : s.returned? .work = none := by rw [returned?, hdue]; rfl
      rw [act_work_of_none (work_eq_none_of_due hdue)]
      exact .waits hreturned rfl rfl
    | false =>
      cases hactivity : s.activity with
      | writing i segment rest due late =>
        rw [hactivity] at hactive
        cases hactive
        exact proceeds_of_writing hdue hcoherent hactivity
      | flushing i due late =>
        rw [hactivity] at hactive
        cases hactive
        exact proceeds_of_flushing hdue hactivity
      | draining i due =>
        rw [hactivity] at hactive
        cases hactive
        exact proceeds_of_draining hdue hactivity
      | _ =>
        rw [hactivity] at hactive
        cases hactive
  | call c =>
    have hstage := (hcoherent.printing job hactive).1
    exact .waits rfl (called s c).activity ((called s c).printing hstage)
  | stop =>
    have hstop : s.stop = none := by
      refine Option.eq_none_iff_forall_ne_some.2 fun s' h => ?_
      rw [(stop_eq_some_iff.1 h).2.1] at hactive
      cases hactive
    rw [act_stop_of_none hstop]
    exact .waits rfl rfl rfl
  | change => exact .waits rfl rfl rfl
  | advance => exact .waits rfl rfl rfl

end Spooler

end ReceiptPrinter

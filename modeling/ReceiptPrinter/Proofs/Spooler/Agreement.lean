import ReceiptPrinter.Proofs.Spooler.Coherent

/-!
# Stage and connection

Callers move the stage to `connecting` when they queue a request to connect; all other moves are the
worker's, which changes the connection at the same time. Whenever the worker is between two
requests, stage and connection agree (`Agrees`), and the stage `connecting` has a request to connect
in the queue.
-/

namespace ReceiptPrinter.Spooler

variable {s s' : Spooler}

/-- How stage and connection agree between two requests. -/
structure Agrees (s : Spooler) : Prop where
  not_printing : s.stage ≠ .printing
  ready_iff : s.stage = .ready ↔ s.connection.state = .connected
  faulted : s.stage = .faulted → s.connection.state = .faulted
  idle : s.stage = .idle → s.connection.state = .disconnected
  connecting : s.stage = .connecting →
    (s.connection.state = .disconnected ∨ s.connection.state = .faulted) ∧
      ∃ config ticket, Request.connect config ticket ∈ s.queue

theorem agrees_start (writeDeadline drainDelay : Nat) :
    (start writeDeadline drainDelay).Agrees := by
  constructor <;> simp [start]

/-- `Agrees` stays with stage and connection, if no request to connect has left the queue. -/
theorem Agrees.of_eq (h : s.Agrees) (hstage : s'.stage = s.stage)
    (hconnection : s'.connection = s.connection)
    (hqueue : ∀ config ticket, Request.connect config ticket ∈ s.queue →
      Request.connect config ticket ∈ s'.queue) : s'.Agrees := by
  rcases h with ⟨hprinting, hready, hfaulted, hidle, hconnecting⟩
  rw [← hstage] at hprinting hready hfaulted hidle hconnecting
  rw [← hconnection] at hready hfaulted hidle hconnecting
  refine ⟨hprinting, hready, hfaulted, hidle, fun hstage => ?_⟩
  obtain ⟨hstate, config, ticket, hmem⟩ := hconnecting hstage
  exact ⟨hstate, config, ticket, hqueue config ticket hmem⟩

/-! ### Where the worker leaves stage and connection -/

theorem agrees_of_idle (hstage : s.stage = .idle) (hstate : s.connection.state = .disconnected) :
    s.Agrees := by
  constructor <;> simp [hstage, hstate]

theorem agrees_of_ready (hstage : s.stage = .ready) (hstate : s.connection.state = .connected) :
    s.Agrees := by
  constructor <;> simp [hstage, hstate]

theorem agrees_of_faulted (hstage : s.stage = .faulted) (hstate : s.connection.state = .faulted) :
    s.Agrees := by
  constructor <;> simp [hstage, hstate]

theorem agrees_faultJob (s : Spooler) (job : Nat) (e : ConnectionError) :
    (s.faultJob job e).Agrees := by
  rw [faultJob_eq]
  exact agrees_of_faulted rfl rfl

theorem agrees_completeJob (h : s.Connected) (job : Nat) : (s.completeJob job).Agrees := by
  rw [completeJob_eq]
  exact agrees_of_ready rfl h.1

theorem agrees_of_resumed (h : s.Connected) {job : Nat} {segments : List (List UInt8)}
    (hr : Resumed s job segments s') (hact : s'.activity = .waiting) : s'.Agrees := by
  cases hr with
  | writing => cases hact
  | flushing => cases hact
  | completed => exact agrees_completeJob h job
  | failed e => exact agrees_faultJob s job _

/-! ### Runs -/

theorem Agrees.connecting_of_call (h : s.Agrees) (hstage : s.stage = .idle ∨ s.stage = .faulted)
    (config : Config) : Agrees { s with
      stage := .connecting
      transitions := s.entered .connecting
      queue := s.queue ++ [.connect config s.tickets.length]
      tickets := s.tickets ++ [none] } := by
  have hstate : s.connection.state = .disconnected ∨ s.connection.state = .faulted :=
    hstage.imp h.idle h.faulted
  have hnot : s.connection.state ≠ .connected := by
    rcases hstate with hstate | hstate <;> simp [hstate]
  refine ⟨by simp, ?_, by simp, by simp, fun _ => ⟨hstate, config, s.tickets.length, ?_⟩⟩
  · simp [hnot]
  · simp

theorem Agrees.called (h : s.Agrees) {c : Call} {answer : Answer} (hc : Called s c answer s')
    (hact : s.activity = .waiting) : s'.Agrees := by
  cases hc with
  | connectClosed config hconfig hstage hclosed =>
    have hstopped : s.activity = .stopped := beq_iff_eq.1 hclosed
    rw [hact] at hstopped
    cases hstopped
  | connecting config hconfig hstage hopen => exact h.connecting_of_call hstage config
  | configured => exact h.of_eq rfl rfl fun _ _ hmem => List.mem_append_left _ hmem
  | disconnecting => exact h.of_eq rfl rfl fun _ _ hmem => List.mem_append_left _ hmem
  | accepted => exact h.of_eq rfl rfl fun _ _ hmem => List.mem_append_left _ hmem
  | _ => exact h.of_eq rfl rfl fun _ _ hmem => hmem

theorem mem_of_mem_cons {request : Request} {queue : List Request}
    (hqueue : s.queue = request :: queue) {config : Config} {ticket : Nat}
    (hne : request ≠ .connect config ticket) (h : Request.connect config ticket ∈ s.queue) :
    Request.connect config ticket ∈ queue := by
  rw [hqueue] at h
  exact (List.mem_cons.1 h).resolve_left hne.symm

theorem agrees_of_worked (h : s.activity = .waiting → s.Agrees) (hcoherent : s.Coherent)
    (hw : Worked s s') (hact' : s'.activity = .waiting) : s'.Agrees := by
  cases hw with
  | kept config ticket queue hact hqueue hsame =>
    exact (h hact).of_eq rfl rfl fun _ _ => mem_of_mem_cons hqueue (by simp)
  | closed request ticket queue hact hqueue hcloses => exact agrees_of_idle rfl rfl
  | opening config ticket queue hact hqueue =>
    rw [startConnect_eq] at hact'
    cases hact'
  | opened ticket channel due hact hfault => exact agrees_of_ready rfl rfl
  | openFailed ticket channel due e hact hfault => exact agrees_of_faulted rfl rfl
  | unknown job queue hact hqueue hjob =>
    exact (h hact).of_eq rfl rfl fun _ _ => mem_of_mem_cons hqueue (by simp)
  | skipped job j queue hact hqueue hjob hphase =>
    exact (h hact).of_eq rfl rfl fun _ _ => mem_of_mem_cons hqueue (by simp)
  | refused job j e queue hact hqueue hjob hphase hrefuses =>
    exact (h hact).of_eq rfl rfl fun _ _ => mem_of_mem_cons hqueue (by simp)
  | started job j segments queue _ hact hqueue hjob hphase hsegments hstage hconnected hr =>
    have hbegun : (s.beginJob queue job).Connected := connected_of_isConnected hconnected
    exact agrees_of_resumed hbegun hr hact'
  | wrote job segment rest due channel _ hact hlive hfault hr =>
    have hconnected : Connected { s with link := s.link.deliver channel segment } :=
      (hcoherent.printing job (by rw [hact]; rfl)).2
    exact agrees_of_resumed hconnected hr hact'
  | writeFailed => exact agrees_faultJob s _ _
  | flushed => cases hact'
  | flushFailed => exact agrees_faultJob s _ _
  | drained job due hact =>
    exact agrees_completeJob (hcoherent.printing job (by rw [hact]; rfl)).2 job

theorem agrees_of_happened (h : s.activity = .waiting → s.Agrees) (hcoherent : s.Coherent)
    {a : Action} (ha : Happened s a s') (hact' : s'.activity = .waiting) : s'.Agrees := by
  cases ha with
  | call c answer _ hc =>
    have hact : s.activity = .waiting := by
      rw [← hact']
      cases hc with
      | connectClosed => rw [enter_eq, enter_eq]
      | _ => rfl
    exact (h hact).called hc hact
  | work _ hw => exact agrees_of_worked h hcoherent hw hact'
  | stop => cases hact'
  | change => exact (h hact').of_eq rfl rfl fun _ _ hmem => hmem
  | advance => exact (h hact').of_eq rfl rfl fun _ _ hmem => hmem
  | nothing => exact h hact'

variable (writeDeadline drainDelay : Nat)

/-- `Agrees` holds at the end of every run whose worker is `waiting`. -/
theorem agrees_of_waiting (actions : List Action)
    (h : ((start writeDeadline drainDelay).run actions).activity = .waiting) :
    ((start writeDeadline drainDelay).run actions).Agrees := by
  revert h
  induction actions using List.reverseRecOn with
  | nil => exact fun _ => agrees_start writeDeadline drainDelay
  | append_singleton actions a ih =>
    rw [run_concat]
    exact agrees_of_happened ih (coherent_run writeDeadline drainDelay actions) (happened _ a)

/-- After an attempt that failed, a second one waits in the queue. -/
theorem agrees_while_reconnecting :
    ((start 1000 100).run [.call (.configure { host := some "a".toList }), .work,
      .change (.failNextConnect ⟨.timeout, "no answer"⟩), .call .connect, .work, .work,
      .call .connect]).activity = .waiting ∧
    ((start 1000 100).run [.call (.configure { host := some "a".toList }), .work,
      .change (.failNextConnect ⟨.timeout, "no answer"⟩), .call .connect, .work, .work,
      .call .connect]).stage = .connecting ∧
    ((start 1000 100).run [.call (.configure { host := some "a".toList }), .work,
      .change (.failNextConnect ⟨.timeout, "no answer"⟩), .call .connect, .work, .work,
      .call .connect]).Agrees :=
  ⟨rfl, rfl, agrees_of_waiting 1000 100 _ rfl⟩

end ReceiptPrinter.Spooler

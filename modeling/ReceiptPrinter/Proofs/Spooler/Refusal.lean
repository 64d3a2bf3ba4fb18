import ReceiptPrinter.Proofs.Spooler.Buffer
import ReceiptPrinter.Proofs.Spooler.Lifecycle

/-!
# Refusals

Input that is at fault, and a job for which the spooler is not ready, are refused.
`RefusesUntouched`: in every run, what is refused has touched nothing but jobs and queue, however
late it is found to be at fault; and an append or a print of the buffer that fails at once leaves
the spooler as it was.
-/

namespace ReceiptPrinter

/-- Whether an operation was refused: its input is at fault, or the spooler was not ready for it. -/
def PrintError.isRefusal : PrintError → Bool
  | .notReady _ => true
  | e => e.isInputError

theorem FromPrinter.not_refusal {e : PrintError} (h : FromPrinter (.error e)) :
    e.isRefusal = false := by
  obtain h | ⟨fault, h⟩ := h
  · cases h
  · cases h
    rfl

namespace Spooler

variable {s s' : Spooler} {c : Call} {job : Nat} {e : PrintError}

/-! ### Calls -/

/-- A call that fails at once, unless the worker has stopped, leaves the spooler as it was. -/
theorem Called.eq_of_error (h : Called s c (.done (.error e)) s') (he : e ≠ .closed) : s' = s := by
  cases h with
  | refused => rfl
  | installed => exact absurd rfl he
  | connectClosed => exact absurd rfl he

theorem isRefusal_ne_closed (h : e.isRefusal = true) : e ≠ .closed := by
  rintro rfl
  cases h

/-- Appends and `startPrint` that fail at once leave the spooler as it was. -/
theorem eq_of_append_error (hc : c.isAppend = true ∨ c = .startPrint)
    (h : (s.call c).1 = .done (.error e)) : (s.call c).2 = s := by
  have hcalled := called s c
  rw [h] at hcalled
  generalize (s.call c).2 = s' at hcalled
  cases hcalled with
  | refused => rfl
  | installed => simp [Call.isAppend] at hc
  | connectClosed => simp [Call.isAppend] at hc

/-! ### Tickets -/

/-- Whether no ticket was answered with a refusal. -/
def Unrefused (s : Spooler) : Prop := ∀ e, some (.error e) ∈ s.tickets → e.isRefusal = false

theorem Unrefused.of_eq (h : s.Unrefused) (htickets : s'.tickets = s.tickets) : s'.Unrefused :=
  fun e he => h e (htickets ▸ he)

theorem Unrefused.answer (h : s.Unrefused) {ticket : Nat} {result : PrintResult}
    (hresult : ∀ e, result = .error e → e.isRefusal = false)
    (htickets : s'.tickets = s.tickets.set ticket (some result)) : s'.Unrefused := by
  intro e he
  rw [htickets] at he
  obtain he | heq := List.mem_or_eq_of_mem_set he
  · exact h e he
  · exact hresult e (Option.some.inj heq).symm

theorem Unrefused.push (h : s.Unrefused) (htickets : s'.tickets = s.tickets ++ [none]) :
    s'.Unrefused := by
  intro e he
  rw [htickets, List.mem_append, List.mem_singleton] at he
  exact h e (he.resolve_right (by simp))

theorem Unrefused.called (h : s.Unrefused) {answer : Answer} (hc : Called s c answer s') :
    s'.Unrefused := by
  cases hc with
  | configured => exact h.push rfl
  | connecting => exact h.push rfl
  | disconnecting => exact h.push rfl
  | connectClosed =>
    rw [enter_eq, enter_eq]
    exact h.of_eq rfl
  | _ => exact h.of_eq rfl

theorem Resumed.tickets {segments : List (List UInt8)} (h : Resumed s job segments s') :
    s'.tickets = s.tickets := by
  cases h with
  | completed => rw [completeJob_eq]
  | failed => rw [faultJob_eq]
  | _ => rfl

theorem Unrefused.worked (h : s.Unrefused) (hw : Worked s s') : s'.Unrefused := by
  have hok : ∀ e, (.ok () : PrintResult) = .error e → e.isRefusal = false := by simp
  cases hw with
  | kept => exact h.answer hok rfl
  | closed => exact h.answer hok rfl
  | opened => exact h.answer hok rfl
  | openFailed ticket channel due fault =>
    refine h.answer (fun e he => ?_) rfl
    cases he
    rfl
  | opening => exact h.of_eq (by rw [startConnect_eq])
  | refused => exact h.of_eq (by rw [finishJob_eq]; rfl)
  | started i ji segments queue _ hact hqueue hi hphase hsegments hstage hconnected hr =>
    exact h.of_eq hr.tickets
  | wrote i segment rest due channel _ hact hlive hfault hr => exact h.of_eq hr.tickets
  | writeFailed => exact h.of_eq (by rw [faultJob_eq])
  | flushFailed => exact h.of_eq (by rw [faultJob_eq])
  | drained => exact h.of_eq (by rw [completeJob_eq])
  | _ => exact h.of_eq rfl

/-- A worker that stops answers tickets with success or as `closed`. -/
theorem mem_abandonedTickets {queue : List Request} {tickets : List (Option PrintResult)}
    (h : some (.error e) ∈ abandonedTickets queue tickets) :
    some (.error e) ∈ tickets ∨ e = .closed := by
  induction queue generalizing tickets with
  | nil => exact .inl h
  | cons request queue ih =>
    obtain hmem | hclosed := ih h
    · cases request with
      | print => exact .inl hmem
      | disconnect =>
        exact (List.mem_or_eq_of_mem_set hmem).imp_right fun heq => by simp at heq
      | _ =>
        exact (List.mem_or_eq_of_mem_set hmem).imp_right fun heq =>
          Except.error.inj (Option.some.inj heq)
    · exact .inr hclosed

theorem Unrefused.happened (h : s.Unrefused) {a : Action} (ha : Happened s a s') :
    s'.Unrefused := by
  cases ha with
  | call c answer _ hc => exact h.called hc
  | work _ hw => exact h.worked hw
  | stop =>
    intro e he
    obtain he | rfl := mem_abandonedTickets he
    · exact h e he
    · rfl
  | _ => exact h.of_eq rfl

variable (writeDeadline drainDelay : Nat)

theorem unrefused_run (actions : List Action) :
    ((start writeDeadline drainDelay).run actions).Unrefused :=
  run_induction (fun e he => by simp [start] at he) (fun _ _ _ h ha => h.happened ha) actions

/-! ### Refusals -/

variable {writeDeadline drainDelay} {actions : List Action}

/-- A job that was refused was not begun. -/
theorem not_begun_of_refusal {j : Job}
    (hjob : ((start writeDeadline drainDelay).run actions).jobs[job]? = some j)
    (hout : j.outcome = some (.error e)) (he : e.isRefusal = true) :
    ¬((start writeDeadline drainDelay).run actions).Begun job := by
  rintro (hactive | ⟨j', r, hj', hsome, hr⟩)
  · rw [(outcome_eq_none_iff hjob).2 (.inr hactive)] at hout
    cases hout
  · rw [hjob] at hj'
    cases hj'
    cases hout.symm.trans hsome
    rw [hr.not_refusal] at he
    cases he

/-- What a run does by what it refuses. -/
structure RefusesUntouched (s : Spooler) (actions : List Action) : Prop where
  /-- A call that comes to a refusal, at once or later, has touched nothing itself. -/
  call : ∀ before c e, before ++ [.call c] <+: actions → e.isRefusal = true →
    (s.run actions).result? ((s.run before).call c).1 = some (.error e) →
    (s.run before).Untouched ((s.run before).call c).2
  /-- What the worker answers to a ticket is no refusal. -/
  ticket : ∀ (ticket : Nat) (e : PrintError),
    (s.run actions).tickets[ticket]? = some (some (.error e)) →
      e.isRefusal = false
  /-- Nothing that dealt with a job that was refused has touched anything. -/
  job : ∀ job j e, (s.run actions).jobs[job]? = some j → e.isRefusal = true →
    j.outcome = some (.error e) →
    writesOf (s.writes actions) job = [] ∧
    ∀ before a, before ++ [a] <+: actions → (s.run before).Concerns job a →
      (s.run before).Untouched ((s.run before).act a)
  /-- An append or a print of the buffer that fails at once changes nothing at all. -/
  append : ∀ before c e, before ++ [.call c] <+: actions → c.isAppend = true ∨ c = .startPrint →
    ((s.run before).call c).1 = .done (.error e) → ((s.run before).call c).2 = s.run before

/-- What a run refuses leaves all else `Untouched`. -/
theorem refused_untouched (writeDeadline drainDelay : Nat) (actions : List Action) :
    RefusesUntouched (start writeDeadline drainDelay) actions where
  call := by
    intro before c e _ he hresult
    have hcalled := called ((start writeDeadline drainDelay).run before) c
    generalize (((start writeDeadline drainDelay).run before).call c).1 = answer at hcalled hresult
    cases answer with
    | done result =>
      rw [result?_done] at hresult
      cases hresult
      rw [hcalled.eq_of_error (isRefusal_ne_closed he)]
      exact .refl _
    | ticket ticket =>
      rw [result?_ticket] at hresult
      have hmem : some (.error e) ∈ ((start writeDeadline drainDelay).run actions).tickets :=
        List.mem_of_getElem? (Option.join_eq_some_iff.1 hresult)
      rw [unrefused_run writeDeadline drainDelay actions e hmem] at he
      cases he
    | job job => exact hcalled.untouched_of_job
    | cancelled won => cases hresult
  ticket := fun ticket e h =>
    unrefused_run writeDeadline drainDelay actions e (List.mem_of_getElem? h)
  job := by
    intro job j e hjob he hout
    have hbegun := not_begun_of_refusal hjob hout he
    exact ⟨writesOf_of_not_begun hbegun,
      fun before a hbefore hconcerns => untouched_of_not_begun hbegun hbefore hconcerns⟩
  append := fun before c e _ hc h => eq_of_append_error hc h

end Spooler

end ReceiptPrinter

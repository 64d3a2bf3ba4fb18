import ReceiptPrinter.Proofs.Spooler.Stopping

/-!
# Runs without calls

Between calls only the worker acts on a spooler; apart from its steps, time passes and the link
changes from outside. Without its steps a spooler `Drifts`, with nothing changed but the time and
what its link does next; and a call whose request the worker handles in one step `Leads` from the
state before that step to the state after it.
-/

namespace ReceiptPrinter

/-! ### Links that change from outside -/

/-- Whether all that channels have done is the same at two links. -/
structure Link.Alike (link link' : Link) : Prop where
  deliveries : link'.deliveries = link.deliveries
  targets : link'.targets = link.targets
  connects : link'.connects = link.connects
  disconnects : link'.disconnects = link.disconnects
  openHandles : link'.openHandles = link.openHandles

namespace Link.Alike

variable {link link' link'' : Link}

theorem refl (link : Link) : link.Alike link := ⟨rfl, rfl, rfl, rfl, rfl⟩

theorem change (h : link.Alike link') (c : LinkChange) : link.Alike (link'.change c) := by
  cases c <;> exact ⟨h.deliveries, h.targets, h.connects, h.disconnects, h.openHandles⟩

theorem dropChannel (h : link.Alike link') (c : Connection) :
    (c.dropChannel link).Alike (c.dropChannel link') := by
  unfold Connection.dropChannel
  cases c.channel with
  | none => exact h
  | some channel =>
    unfold Link.disconnect
    by_cases hopen : channel.isOpen = true
    · simp only [hopen, if_true]
      exact ⟨h.deliveries, h.targets, h.connects, congrArg (· + 1) h.disconnects,
        congrArg (· - 1) h.openHandles⟩
    · simp only [hopen]
      exact h

end Link.Alike

namespace Spooler

variable {s t : Spooler} {a : Action} {actions : List Action} {request : Request}

/-- Whether a spooler is `s` after some time, in which only its link was changed. -/
inductive Drifts (s : Spooler) : Spooler → Prop
  | mk (now : Nat) (link : Link) (h : s.link.Alike link) : Drifts s { s with now, link }

namespace Drifts

theorem refl (s : Spooler) : Drifts s s := .mk s.now s.link (.refl s.link)

theorem alike (h : Drifts s t) : s.link.Alike t.link := by
  cases h with
  | mk now link h => exact h

theorem activity (h : Drifts s t) : t.activity = s.activity := by
  cases h
  rfl

theorem queue (h : Drifts s t) : t.queue = s.queue := by
  cases h
  rfl

theorem tickets (h : Drifts s t) : t.tickets = s.tickets := by
  cases h
  rfl

theorem connection (h : Drifts s t) : t.connection = s.connection := by
  cases h
  rfl

theorem stage (h : Drifts s t) : t.stage = s.stage := by
  cases h
  rfl

/-- What is no step of the worker lets a spooler drift, or ends its worker. -/
theorem act (h : Drifts s t) (hcall : ∀ c, a ≠ .call c) (hwork : a ≠ .work) :
    Drifts s (t.act a) ∨ (t.act a).activity = .stopped := by
  cases a with
  | call c => exact absurd rfl (hcall c)
  | work => exact absurd rfl hwork
  | stop =>
    cases hstop : t.stop with
    | none =>
      rw [act_stop_of_none hstop]
      exact .inl h
    | some t' =>
      rw [act_stop_of_some hstop]
      obtain ⟨-, -, rfl⟩ := stop_eq_some_iff.1 hstop
      exact .inr rfl
  | change c =>
    cases h with
    | mk now link h => exact .inl (.mk now (link.change c) (h.change c))
  | advance ms =>
    cases h with
    | mk now link h => exact .inl (.mk (now + ms) link h)

theorem closeConnection (h : Drifts s t) :
    Drifts (s.closeConnection.enter .idle) (t.closeConnection.enter .idle) := by
  cases h with
  | mk now link h =>
    rw [closeConnection_enter_eq, closeConnection_enter_eq]
    exact .mk now _ (h.dropChannel s.connection)

theorem dropStale (h : Drifts s t) (config : Config) :
    Drifts (s.dropStale config) (t.dropStale config) := by
  rw [Spooler.dropStale, Spooler.dropStale, h.connection]
  split
  · exact h.closeConnection
  · exact h

theorem answer (h : Drifts s t) (ticket : Nat) (result : PrintResult) :
    Drifts (s.answer ticket result) (t.answer ticket result) := by
  cases h with
  | mk now link h => exact .mk now link h

theorem take (h : Drifts s t) : Drifts { s with queue := [] } { t with queue := [] } := by
  cases h with
  | mk now link h => exact .mk now link h

end Drifts

/-! ### Runs without calls -/

def Uncalled (actions : List Action) : Prop := ∀ a ∈ actions, ∀ c, a ≠ .call c

theorem uncalled_nil : Uncalled [] := fun _ h => absurd h List.not_mem_nil

theorem uncalled_singleton (ha : ∀ c, a ≠ .call c) : Uncalled [a] := fun _ hb =>
  List.mem_singleton.1 hb ▸ ha

/-- What holds at the start, and after every action until the worker stops, holds of a run without
calls at whose end the worker has not stopped. -/
theorem run_uncalled {P : List Action → Spooler → Prop} (hstart : P [] s)
    (hstep : ∀ before a, P before (s.run before) → (∀ c, a ≠ .call c) →
      P (before ++ [a]) ((s.run before).act a) ∨ ((s.run before).act a).activity = .stopped)
    (hcalls : Uncalled actions) (halive : (s.run actions).activity ≠ .stopped) :
    P actions (s.run actions) := by
  induction actions using List.reverseRecOn with
  | nil => exact hstart
  | append_singleton before a ih =>
    rw [run_concat] at halive ⊢
    have hbefore : (s.run before).activity ≠ .stopped := fun hstopped =>
      halive (rests_act hstopped a).activity
    have hP := ih (fun b hb => hcalls b (List.mem_append_left _ hb)) hbefore
    exact (hstep before a hP (hcalls a (by simp))).resolve_right halive

theorem Resumed.shutdown_eq {job : Nat} {segments : List (List UInt8)}
    (h : Resumed s job segments t) : t.shutdown = s.shutdown := by
  cases h with
  | completed => rw [completeJob_eq]
  | failed => rw [faultJob_eq]
  | _ => rfl

theorem Worked.shutdown_eq (h : Worked s t) : t.shutdown = s.shutdown := by
  cases h with
  | opening => rw [startConnect_eq]
  | refused => rw [finishJob_eq]; rfl
  | started job j segments queue _ hact hqueue hjob hphase hsegments hstage hconnected hr =>
    exact hr.shutdown_eq
  | wrote job segment rest due channel _ hact hlive hfault hr => exact hr.shutdown_eq
  | writeFailed => rw [faultJob_eq]
  | flushFailed => rw [faultJob_eq]
  | drained => rw [completeJob_eq]
  | _ => rfl

/-- A worker that was not asked to stop does not stop. -/
theorem running_of_uncalled (hshutdown : s.shutdown = false) (hrunning : s.activity ≠ .stopped)
    (hcalls : Uncalled actions) : (s.run actions).activity ≠ .stopped := by
  suffices h : (s.run actions).shutdown = false ∧ (s.run actions).activity ≠ .stopped from h.2
  induction actions using List.reverseRecOn with
  | nil => exact ⟨hshutdown, hrunning⟩
  | append_singleton before a ih =>
    obtain ⟨hfalse, hactivity⟩ := ih fun b hb => hcalls b (List.mem_append_left _ hb)
    have ha : ∀ c, a ≠ .call c := hcalls a (List.mem_append_right _ List.mem_cons_self)
    have h := happened (s.run before) a
    rw [run_concat]
    generalize (s.run before).act a = t at h
    cases h with
    | call c => exact absurd rfl (ha c)
    | work _ hw => exact ⟨hw.shutdown_eq.trans hfalse, hw.running⟩
    | stop htrue =>
      rw [hfalse] at htrue
      cases htrue
    | _ => exact ⟨hfalse, hactivity⟩

/-! ### What a call leads to -/

/-- What the call `c` comes to that waits for its ticket: `Waits` while it waits and `Ends` when it
has its result, and it can always come to one, unless the worker stops. -/
structure Leads (s : Spooler) (c : Call) (Waits : Spooler → Prop)
    (Ends : List Action → PrintResult → Spooler → Prop) : Prop where
  waits : ∀ after, Uncalled after → (s.run (.call c :: after)).activity ≠ .stopped →
    (s.run (.call c :: after)).result? (s.call c).1 = none → Waits (s.run (.call c :: after))
  ends : ∀ after result, Uncalled after → (s.run (.call c :: after)).activity ≠ .stopped →
    (s.run (.call c :: after)).result? (s.call c).1 = some result →
      Ends after result (s.run (.call c :: after))
  finishes : ∀ after, Uncalled after → (s.run (.call c :: after)).activity ≠ .stopped →
    ∃ more result, Uncalled more ∧ (s.run (.call c :: (after ++ more))).activity ≠ .stopped ∧
      (s.run (.call c :: (after ++ more))).result? (s.call c).1 = some result

theorem Leads.imp {c : Call} {Waits : Spooler → Prop}
    {Ends Ends' : List Action → PrintResult → Spooler → Prop} (h : s.Leads c Waits Ends)
    (hends : ∀ after result t, Ends after result t → Ends' after result t) :
    s.Leads c Waits Ends' where
  waits := h.waits
  ends after result hcalls halive hresult := hends _ _ _ (h.ends after result hcalls halive hresult)
  finishes := h.finishes

theorem leads_of_cases {c : Call} {ticket : Nat} {Waits : Spooler → Prop}
    {Ends : List Action → PrintResult → Spooler → Prop} (hcall : s.call c = (.ticket ticket, t))
    (hcases : ∀ after, Uncalled after → (t.run after).activity ≠ .stopped →
      ((t.run after).tickets[ticket]? = some none ∧ Waits (t.run after) ∧
        ∃ more result, Uncalled more ∧ ((t.run after).run more).activity ≠ .stopped ∧
          ((t.run after).run more).tickets[ticket]? = some (some result)) ∨
      ∃ result, (t.run after).tickets[ticket]? = some (some result) ∧
        Ends after result (t.run after)) : s.Leads c Waits Ends := by
  have hrun : ∀ after, s.run (.call c :: after) = t.run after := fun after =>
    congrArg (run · after) (congrArg Prod.snd hcall)
  have hresult : ∀ {u : Spooler} {r : Option PrintResult}, u.tickets[ticket]? = some r →
      u.result? (s.call c).1 = r := fun h => by
    rw [hcall, result?_ticket, h]
    rfl
  refine ⟨fun after hcalls halive hnone => ?_, fun after result hcalls halive hsome => ?_,
    fun after hcalls halive => ?_⟩
  · rw [hrun] at halive hnone ⊢
    rcases hcases after hcalls halive with ⟨-, hwaits, -⟩ | ⟨result, hticket, -⟩
    · exact hwaits
    · cases hnone.symm.trans (hresult hticket)
  · rw [hrun] at halive hsome ⊢
    rcases hcases after hcalls halive with ⟨hticket, -, -⟩ | ⟨result', hticket, hends⟩
    · cases hsome.symm.trans (hresult hticket)
    · cases hsome.symm.trans (hresult hticket)
      exact hends
  · simp only [hrun, run_append] at halive ⊢
    rcases hcases after hcalls halive with ⟨-, -, more, result, hmore, hrunning, hticket⟩ |
      ⟨result, hticket, -⟩
    · exact ⟨more, result, hmore, hrunning, hresult hticket⟩
    · exact ⟨[], result, uncalled_nil, halive, hresult hticket⟩

/-! ### Requests that the worker handles in one step -/

theorem act_work_of_queue_nil (hactivity : t.activity = .waiting) (hqueue : t.queue = []) :
    t.act .work = t :=
  act_work_of_none (by simp [work, due?, hactivity, takeRequest, hqueue])

theorem act_work_of_request (hactivity : t.activity = .waiting) (hqueue : t.queue = [request]) :
    t.act .work = { t with queue := [] }.handle request :=
  act_work_of_some (by simp [work, due?, hactivity, takeRequest, hqueue])

/-- The worker does the same to a spooler that has drifted. -/
theorem Drifts.act_work (h : Drifts s t) (hactivity : s.activity = .waiting)
    (hqueue : s.queue = [request]) (hhandle : ∀ s t, Drifts s t →
      Drifts (s.handle request) (t.handle request)) : Drifts (s.act .work) (t.act .work) := by
  rw [act_work_of_request hactivity hqueue,
    act_work_of_request (h.activity.trans hactivity) (h.queue.trans hqueue)]
  exact hhandle _ _ h.take

/-- Until the worker has handled its only request the spooler drifts from the state before, and then
from the one after. -/
theorem drifts_of_one_step (hstep : ∀ t, Drifts s t → Drifts (s.act .work) (t.act .work))
    (hactivity : (s.act .work).activity = .waiting) (hqueue : (s.act .work).queue = [])
    (hcalls : Uncalled actions) (halive : (s.run actions).activity ≠ .stopped) :
    Drifts s (s.run actions) ∨ Drifts (s.act .work) (s.run actions) := by
  refine run_uncalled (P := fun _ t => Drifts s t ∨ Drifts (s.act .work) t) (.inl (.refl s))
    (fun before a h ha => ?_) hcalls halive
  by_cases hwork : a = .work
  · subst hwork
    refine .inl (.inr ?_)
    rcases h with h | h
    · exact hstep _ h
    · -- the queue is empty, so the worker has nothing to do
      rwa [act_work_of_queue_nil (h.activity.trans hactivity) (h.queue.trans hqueue)]
  · rcases h with h | h
    · exact (h.act ha hwork).imp_left .inl
    · exact (h.act ha hwork).imp_left .inr

theorem leads_of_one_step {c : Call} {ticket : Nat} (hcall : s.call c = (.ticket ticket, t))
    (hticket : t.tickets[ticket]? = some none)
    (hstep : ∀ u, Drifts t u → Drifts (t.act .work) (u.act .work))
    (hactivity : (t.act .work).activity = .waiting) (hqueue : (t.act .work).queue = [])
    (hanswer : (t.act .work).tickets[ticket]? = some (some (.ok ()))) :
    s.Leads c (Drifts t) fun _ result u => result = .ok () ∧ Drifts (t.act .work) u := by
  refine leads_of_cases hcall fun after hcalls halive => ?_
  rcases drifts_of_one_step hstep hactivity hqueue hcalls halive with h | h
  · have hnext := hstep _ h
    refine .inl ⟨h.tickets ▸ hticket, h, [.work], .ok (), uncalled_singleton (by simp), ?_,
      hnext.tickets ▸ hanswer⟩
    show ((t.run after).act .work).activity ≠ .stopped
    rw [hnext.activity, hactivity]
    simp
  · exact .inr ⟨.ok (), h.tickets ▸ hanswer, rfl, h⟩

end Spooler

end ReceiptPrinter

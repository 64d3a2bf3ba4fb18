import ReceiptPrinter.Proofs.Spooler.Drifting
import ReceiptPrinter.Proofs.Spooler.Reconnecting

/-!
# Calls at rest

When a call to configure, to connect or to disconnect is made while nothing is outstanding, the
worker has nothing else to do. `Lifecycle`: such a call comes to an end unless the worker stops. A
configuration closes the connection to another printer and changes nothing else; a connect makes one
channel, for the configured printer, and ends as the link answers; and a disconnect closes the
connection and forgets the configuration, after which another one changes nothing.
-/

namespace ReceiptPrinter.Spooler

variable {s t : Spooler} {a : Action} {actions : List Action} {config : Config}

/-! ### Closed connections -/

/-- Whether a spooler is idle and its connection closed. -/
structure Closed (s : Spooler) : Prop where
  stage : s.stage = .idle
  state : s.connection.state = .disconnected
  channel : s.connection.channel = none
  target : s.connection.target = none
  handles : s.link.openHandles = 0

/-- A spooler at rest after the worker has closed the connection for a request. -/
def released (s : Spooler) (config : Option Config) : Spooler := { s with
  config
  connection := (s.connection.close s.link).1
  link := (s.connection.close s.link).2
  stage := .idle
  transitions := s.entered .idle
  queue := []
  tickets := s.tickets ++ [some (.ok ())] }

theorem closed_of_released {config : Option Config} (hbalanced : Balanced s.connection s.link)
    (h : Drifts (s.released config) t) : t.Closed where
  stage := h.stage
  state := congrArg Connection.state h.connection
  channel := congrArg Connection.channel h.connection
  target := congrArg Connection.target h.connection
  handles := h.alike.openHandles.trans hbalanced.close.handles

theorem set_concat_self {α : Type} (l : List α) (a b : α) :
    (l ++ [a]).set l.length b = l ++ [b] := by simp

/-! ### Requests that are answered by ticket -/

/-- A spooler at rest with `request` in the queue, which is answered by ticket. -/
def asked (s : Spooler) (config : Option Config) (request : Request) : Spooler := { s with
  config
  queue := [request]
  tickets := s.tickets ++ [none] }

theorem act_work_asked (hactivity : s.activity = .waiting) (config : Option Config)
    (request : Request) : (s.asked config request).act .work =
      { s.asked config request with queue := [] }.handle request :=
  act_work_of_request hactivity rfl

/-! ### Configurations -/

theorem dropStale_of_same (h : ∀ target, s.connection.target = some target →
    target.sameDevice config.target = true) : s.dropStale config = s := by
  refine if_neg ?_
  rw [Option.any_eq_true]
  rintro ⟨target, htarget, hother⟩
  rw [h target htarget] at hother
  cases hother

theorem dropStale_of_other {target : Target} (htarget : s.connection.target = some target)
    (hother : target.sameDevice config.target = false) :
    s.dropStale config = s.closeConnection.enter .idle :=
  if_pos (by rw [htarget, Option.any_some, hother]; rfl)

theorem call_configure (hqueue : s.queue = []) (hactivity : s.activity = .waiting)
    {options : Options} (hconfig : Config.build options = .ok config) :
    s.call (.configure options) = (.ticket s.tickets.length,
      s.asked (some config) (.configure config s.tickets.length)) := by
  have hopen : ({ s with config := some config } : Spooler).isClosed = false := by
    rw [isClosed, hactivity]
    rfl
  simp only [call, configure, hconfig, hopen, Bool.false_eq_true, if_false, pushTicket, push,
    asked]
  rw [hqueue, List.nil_append]

/-- A configuration for the printer of the connection changes nothing else. -/
theorem act_work_configure_of_same (hqueue : s.queue = []) (hactivity : s.activity = .waiting)
    (hsame : ∀ target, s.connection.target = some target →
      target.sameDevice config.target = true) :
    (s.asked (some config) (.configure config s.tickets.length)).act .work =
      { s with config := some config, tickets := s.tickets ++ [some (.ok ())] } := by
  have hkept : ({ s.asked (some config) (.configure config s.tickets.length) with
      queue := [] } : Spooler).dropStale config = _ := dropStale_of_same hsame
  rw [act_work_asked hactivity, handle, hkept, answer, asked]
  simp only [set_concat_self, hqueue]

theorem act_work_configure_of_other (hactivity : s.activity = .waiting) {target : Target}
    (htarget : s.connection.target = some target)
    (hother : target.sameDevice config.target = false) :
    (s.asked (some config) (.configure config s.tickets.length)).act .work =
      s.released (some config) := by
  have hdropped : ({ s.asked (some config) (.configure config s.tickets.length) with
      queue := [] } : Spooler).dropStale config = _ := dropStale_of_other htarget hother
  rw [act_work_asked hactivity, handle, hdropped, closeConnection_enter_eq, answer, asked]
  simp only [set_concat_self]
  rfl

/-- A configuration for another printer closes the connection, any other one leaves it. -/
theorem act_work_configure_cases (hqueue : s.queue = []) (hactivity : s.activity = .waiting)
    (config : Config) :
    let after := (s.asked (some config) (.configure config s.tickets.length)).act .work
    ((∀ target, s.connection.target = some target → target.sameDevice config.target = true) ∧
      after = { s with config := some config, tickets := s.tickets ++ [some (.ok ())] }) ∨
    ∃ target, s.connection.target = some target ∧ target.sameDevice config.target = false ∧
      after = s.released (some config) := by
  by_cases hsame : ∀ target, s.connection.target = some target →
      target.sameDevice config.target = true
  · exact .inl ⟨hsame, act_work_configure_of_same hqueue hactivity hsame⟩
  · push Not at hsame
    obtain ⟨target, htarget, hother⟩ := hsame
    have hother := Bool.eq_false_iff.2 hother
    exact .inr ⟨target, htarget, hother, act_work_configure_of_other hactivity htarget hother⟩

theorem act_work_configure_rests (hqueue : s.queue = []) (hactivity : s.activity = .waiting)
    (config : Config) :
    let after := (s.asked (some config) (.configure config s.tickets.length)).act .work
    after.activity = .waiting ∧ after.queue = [] ∧
      after.tickets = s.tickets ++ [some (.ok ())] := by
  intro after
  rcases act_work_configure_cases hqueue hactivity config with ⟨-, hwork⟩ | ⟨_, -, -, hwork⟩
  · rw [show after = _ from hwork]
    exact ⟨hactivity, hqueue, rfl⟩
  · rw [show after = _ from hwork]
    exact ⟨hactivity, rfl, rfl⟩

/-- What a configuration that is installed at rest has come to. -/
structure Configured (s : Spooler) (config : Config) (t : Spooler) : Prop where
  installed : t.config = some config
  targets : t.link.targets = s.link.targets
  deliveries : t.link.deliveries = s.link.deliveries
  kept : (∀ target, s.connection.target = some target → target.sameDevice config.target = true) →
    Drifts { s with config := some config, tickets := s.tickets ++ [some (.ok ())] } t
  closed : ∀ target, s.connection.target = some target → target.sameDevice config.target = false →
    t.Closed ∧ Drifts (s.released (some config)) t

theorem configured_of_drifts (hqueue : s.queue = []) (hactivity : s.activity = .waiting)
    (hbalanced : Balanced s.connection s.link)
    (h : Drifts ((s.asked (some config) (.configure config s.tickets.length)).act .work) t) :
    s.Configured config t := by
  rcases act_work_configure_cases hqueue hactivity config with
    ⟨hsame, hwork⟩ | ⟨target, htarget, hother, hwork⟩
  · rw [hwork] at h
    refine ⟨?_, h.alike.targets, h.alike.deliveries, fun _ => h, fun target htarget hother => ?_⟩
    · cases h
      rfl
    · rw [hsame target htarget] at hother
      cases hother
  · rw [hwork] at h
    refine ⟨?_, h.alike.targets.trans (Connection.dropChannel_targets _ _),
      h.alike.deliveries.trans (Connection.dropChannel_deliveries _ _), fun hsame => ?_,
      fun _ _ _ => ⟨closed_of_released hbalanced h, h⟩⟩
    · cases h
      rfl
    · rw [hsame target htarget] at hother
      cases hother

theorem leads_configure (hqueue : s.queue = []) (hactivity : s.activity = .waiting)
    (hbalanced : Balanced s.connection s.link) {options : Options}
    (hconfig : Config.build options = .ok config) :
    s.Leads (.configure options) (Drifts (s.call (.configure options)).2)
      fun _ result t => result = .ok () ∧ s.Configured config t := by
  have hcall := call_configure hqueue hactivity hconfig
  obtain ⟨hwaiting, hempty, htickets⟩ := act_work_configure_rests hqueue hactivity config
  rw [hcall]
  refine (leads_of_one_step hcall List.getElem?_concat_length (fun t h => ?_) hwaiting hempty
    ?_).imp fun _ _ t h => ⟨h.1, configured_of_drifts hqueue hactivity hbalanced h.2⟩
  · exact h.act_work hactivity rfl fun s t h => (h.dropStale config).answer _ _
  · rw [htickets, List.getElem?_concat_length]

/-! ### Disconnects -/

theorem call_disconnect (hqueue : s.queue = []) (hactivity : s.activity = .waiting) :
    s.call .disconnect = (.ticket s.tickets.length,
      s.asked none (.disconnect s.tickets.length)) := by
  have hopen : ({ s with config := none } : Spooler).isClosed = false := by
    rw [isClosed, hactivity]
    rfl
  simp only [call, disconnect, hopen, Bool.false_eq_true, if_false, pushTicket, push, asked]
  rw [hqueue, List.nil_append]

theorem act_work_disconnect (hactivity : s.activity = .waiting) :
    (s.asked none (.disconnect s.tickets.length)).act .work = s.released none := by
  rw [act_work_asked hactivity, handle, closeConnection_enter_eq, answer, asked]
  simp only [set_concat_self]
  rfl

/-- What a disconnect at rest has come to; another one changes nothing but its own ticket. -/
structure Forgotten (s t : Spooler) : Prop where
  config : t.config = none
  closed : t.Closed
  buffer : t.buffer = s.buffer
  released : Drifts (s.released none) t
  again : t.Leads .disconnect (Drifts (t.call .disconnect).2) fun _ result u =>
    result = .ok () ∧ Drifts { t with tickets := t.tickets ++ [some (.ok ())] } u

theorem released_of_closed (h : t.Closed) (hqueue : t.queue = []) (hconfig : t.config = none) :
    t.released none = { t with tickets := t.tickets ++ [some (.ok ())] } := by
  have hconnection : t.connection.close t.link = (t.connection, t.link) := by
    have hlink : t.connection.dropChannel t.link = t.link := by
      rw [Connection.dropChannel, h.channel]
    rw [Connection.close, hlink, ← h.channel, ← h.target, ← h.state]
  have hentered : t.entered .idle = t.transitions := if_pos h.stage
  rw [released, hconnection, hentered, ← h.stage, ← hqueue, ← hconfig]

theorem leads_released (hqueue : s.queue = []) (hactivity : s.activity = .waiting) :
    s.Leads .disconnect (Drifts (s.call .disconnect).2)
      fun _ result t => result = .ok () ∧ Drifts (s.released none) t := by
  have hcall := call_disconnect hqueue hactivity
  have hwork := act_work_disconnect hactivity
  rw [hcall, ← hwork]
  refine leads_of_one_step hcall List.getElem?_concat_length (fun t h => ?_) ?_ ?_ ?_
  · exact h.act_work hactivity rfl fun s t h => h.closeConnection.answer _ _
  · rw [hwork]
    exact hactivity
  · rw [hwork]
    rfl
  · rw [hwork]
    exact List.getElem?_concat_length

theorem forgotten_of_released (hactivity : s.activity = .waiting)
    (hbalanced : Balanced s.connection s.link) (h : Drifts (s.released none) t) :
    s.Forgotten t := by
  have hclosed := closed_of_released hbalanced h
  have hconfig : t.config = none := by
    cases h
    rfl
  have hbuffer : t.buffer = s.buffer := by
    cases h
    rfl
  refine ⟨hconfig, hclosed, hbuffer, h, ?_⟩
  rw [← released_of_closed hclosed h.queue hconfig]
  exact leads_released h.queue (h.activity.trans hactivity)

theorem leads_disconnect (hqueue : s.queue = []) (hactivity : s.activity = .waiting)
    (hbalanced : Balanced s.connection s.link) :
    s.Leads .disconnect (Drifts (s.call .disconnect).2)
      fun _ result t => result = .ok () ∧ s.Forgotten t :=
  (leads_released hqueue hactivity).imp fun _ _ _ h =>
    ⟨h.1, forgotten_of_released hactivity hbalanced h.2⟩

/-! ### Connects -/

def nextChannel (s : Spooler) : Channel := { number := s.link.targets.length }

/-- A spooler while the worker opens the connection, for a call made at rest. -/
def dialling (s : Spooler) (config : Config) (due : Nat) : Spooler := { s with
  connection :=
    { s.connection with channel := none, target := some config.target, state := .connecting }
  link := { s.connection.dropChannel s.link with targets := s.link.targets ++ [config.target] }
  stage := .connecting
  transitions := s.entered .connecting
  queue := []
  tickets := s.tickets ++ [none]
  activity := .opening s.tickets.length s.nextChannel due }

/-- The spooler when the opening has ended. -/
def dialled (s : Spooler) (config : Config) : Except ConnectionError Unit → Spooler
  | .ok () => { s with
    connection := { s.connection with
      channel := some { s.nextChannel with isOpen := true }
      target := some config.target
      state := .connected }
    link := { s.connection.dropChannel s.link with
      targets := s.link.targets ++ [config.target]
      connects := (s.connection.dropChannel s.link).connects + 1
      openHandles := (s.connection.dropChannel s.link).openHandles + 1 }
    stage := .ready
    transitions := s.entered .connecting ++ [.ready]
    queue := []
    tickets := s.tickets ++ [some (.ok ())]
    activity := .waiting }
  | .error e => { s with
    connection :=
      { s.connection with channel := none, target := some config.target, state := .faulted }
    link := { s.connection.dropChannel s.link with targets := s.link.targets ++ [config.target] }
    stage := .faulted
    transitions := s.entered .connecting ++ [.faulted]
    queue := []
    tickets := s.tickets ++ [some (.error (.connection e))]
    activity := .waiting }

/-- A spooler at rest when a call to connect has queued its request. -/
def dials (s : Spooler) (config : Config) : Spooler := { s with
  stage := .connecting
  transitions := s.entered .connecting
  queue := [.connect config s.tickets.length]
  tickets := s.tickets ++ [none] }

theorem call_connect (hqueue : s.queue = []) (hactivity : s.activity = .waiting)
    (hconfig : s.config = some config) (hstage : s.stage = .idle ∨ s.stage = .faulted) :
    s.call .connect = (.ticket s.tickets.length, s.dials config) := by
  have hopen : ({ s with stage := .connecting, transitions := s.entered .connecting } :
      Spooler).isClosed = false := by
    rw [isClosed, hactivity]
    rfl
  have hcall : s.call .connect = ({ s with
      stage := .connecting
      transitions := s.entered .connecting } : Spooler).pushTicket (.connect config) := by
    rw [call, connect, requireConfig_eq_ok_iff.2 hconfig]
    rcases hstage with hstage | hstage <;>
      simp only [hstage, enter_eq, hopen, Bool.false_eq_true, if_false]
  rw [hcall]
  simp only [pushTicket, push, dials]
  rw [hqueue, List.nil_append]

/-- The worker takes the request to connect and makes a channel. -/
theorem dialling_of_dials (hactivity : s.activity = .waiting) (h : Drifts (s.dials config) t) :
    ∃ due, Drifts (s.dialling config due) (t.act .work) := by
  rw [act_work_of_request (h.activity.trans hactivity) h.queue]
  cases h with
  | mk now link h =>
    have halike := h.dropChannel s.connection
    have htargets : (s.connection.dropChannel link).targets = s.link.targets := by
      rw [Connection.dropChannel_targets, h.targets]
      rfl
    rw [handle, startConnect_eq]
    simp only [dials, htargets]
    exact ⟨_, .mk now _ ⟨halike.deliveries, rfl, halike.connects, halike.disconnects,
      halike.openHandles⟩⟩

/-- The worker waits for the channel, or ends the opening as the link answers. -/
theorem dialled_of_dialling {due : Nat} (h : Drifts (s.dialling config due) t) :
    (t.now < due ∧ t.act .work = t) ∨
    Drifts (s.dialled config (t.link.finishConnect s.nextChannel).1) (t.act .work) := by
  have hwaits : t.due? = some due := by
    rw [due?, h.activity]
    rfl
  cases hdue : t.due?.any (t.now < ·) with
  | true =>
    refine .inl ⟨?_, act_work_of_none (work_eq_none_of_due hdue)⟩
    rw [hwaits] at hdue
    exact of_decide_eq_true hdue
  | false =>
    refine .inr ?_
    have hact : t.act .work = t.finishConnect s.tickets.length s.nextChannel := by
      rw [act, work, hdue, h.activity]
      rfl
    rw [hact]
    cases h with
    | mk now link h =>
      cases hfault : link.connectFault with
      | none =>
        have hlink : (link.finishConnect s.nextChannel).2.2 =
            { link with connects := link.connects + 1, openHandles := link.openHandles + 1 } := by
          simp only [Link.finishConnect, hfault]
          rfl
        rw [finishConnect, Connection.finishOpen_eq_ok hfault, hlink,
          Link.finishConnect_eq_ok hfault]
        simp only [enter_eq, answer, dialling, set_concat_self]
        exact .mk now _ ⟨h.deliveries, h.targets, congrArg (· + 1) h.connects, h.disconnects,
          congrArg (· + 1) h.openHandles⟩
      | some e =>
        rw [finishConnect, Connection.finishOpen_eq_error hfault,
          Link.finishConnect_eq_error hfault]
        simp only [enter_eq, answer, dialling, set_concat_self]
        exact .mk now _ ⟨h.deliveries, h.targets, h.connects, h.disconnects, h.openHandles⟩

/-- How the link answers, at the end of the opening that a call made in state `s` led to. -/
def Answers (s called : Spooler) (after : List Action) (answer : Except ConnectionError Unit) :
    Prop :=
  ∃ before due, before ++ [.work] <+: after ∧
    (called.run before).activity = .opening s.tickets.length s.nextChannel due ∧
    ((called.run before).link.finishConnect s.nextChannel).1 = answer

theorem Answers.append {called : Spooler} {after : List Action}
    {answer : Except ConnectionError Unit} (h : s.Answers called after answer)
    (more : List Action) : s.Answers called (after ++ more) answer := by
  obtain ⟨before, due, hprefix, hanswer⟩ := h
  exact ⟨before, due, hprefix.trans (List.prefix_append _ _), hanswer⟩

/-- How far a call to connect has come, that was made at rest in state `s`. -/
inductive Connecting (s : Spooler) (config : Config) (actions : List Action) (t : Spooler) : Prop
  | queued (h : Drifts (s.dials config) t)
  | opening (due : Nat) (h : Drifts (s.dialling config due) t)
  | ended (answer : Except ConnectionError Unit)
    (hanswer : s.Answers (s.dials config) actions answer) (h : Drifts (s.dialled config answer) t)

theorem dialled_rests (s : Spooler) (config : Config) (answer : Except ConnectionError Unit) :
    (s.dialled config answer).activity = .waiting ∧ (s.dialled config answer).queue = [] := by
  cases answer <;> exact ⟨rfl, rfl⟩

theorem dialled_after {due : Nat} (h : Drifts (s.dialling config due) t) :
    ∃ answer, Drifts (s.dialled config answer) (t.run [.advance due, .work]) := by
  have hlater : Drifts (s.dialling config due) (t.advance due) := by
    cases h with
    | mk now link h => exact .mk (now + due) link h
  rcases dialled_of_dialling hlater with ⟨hearly, -⟩ | hended
  · have hnow : (t.advance due).now = t.now + due := rfl
    omega
  · exact ⟨_, hended⟩

theorem Connecting.act {before : List Action}
    (h : s.Connecting config before ((s.dials config).run before))
    (hactivity : s.activity = .waiting) (ha : ∀ c, a ≠ .call c) :
    s.Connecting config (before ++ [a]) (((s.dials config).run before).act a) ∨
      (((s.dials config).run before).act a).activity = .stopped := by
  by_cases hwork : a = .work
  · subst hwork
    refine .inl ?_
    cases h with
    | queued h =>
      obtain ⟨due, h⟩ := dialling_of_dials hactivity h
      exact .opening due h
    | opening due h =>
      rcases dialled_of_dialling h with ⟨-, hstay⟩ | hended
      · rw [hstay]
        exact .opening due h
      · exact .ended _ ⟨before, due, List.prefix_rfl, h.activity, rfl⟩ hended
    | ended answer hanswer h =>
      obtain ⟨hrest, hempty⟩ := dialled_rests s config answer
      rw [act_work_of_queue_nil (h.activity.trans hrest) (h.queue.trans hempty)]
      exact .ended answer (hanswer.append _) h
  · cases h with
    | queued h => exact (h.act ha hwork).imp_left .queued
    | opening due h => exact (h.act ha hwork).imp_left (.opening due)
    | ended answer hanswer h =>
      exact (h.act ha hwork).imp_left (.ended answer (hanswer.append _))

theorem connecting_run (hactivity : s.activity = .waiting) (hcalls : Uncalled actions)
    (halive : ((s.dials config).run actions).activity ≠ .stopped) :
    s.Connecting config actions ((s.dials config).run actions) :=
  run_uncalled (.queued (.refl _)) (fun _ _ h ha => h.act hactivity ha) hcalls halive

/-- While a connect waits there is no open handle, and at most one channel was made. -/
structure ConnectWaits (s : Spooler) (config : Config) (t : Spooler) : Prop where
  handles : t.link.openHandles = 0
  targets : t.link.targets = s.link.targets ∨ t.link.targets = s.link.targets ++ [config.target]

/-- What a connect has come to: it made one channel, for the configured printer, and ended as the
link answered. -/
structure ConnectEnds (s : Spooler) (config : Config) (after : List Action) (result : PrintResult)
    (t : Spooler) : Prop where
  targets : t.link.targets = s.link.targets ++ [config.target]
  deliveries : t.link.deliveries = s.link.deliveries
  answered : ∃ answer, s.Answers (s.call .connect).2 after answer ∧
    result = answer.mapError .connection ∧ Drifts (s.dialled config answer) t
  connected : result = .ok () → t.stage = .ready ∧ t.connection.state = .connected ∧
    t.connection.channel = some { s.nextChannel with isOpen := true } ∧
    t.connection.target = some config.target ∧ t.link.openHandles = 1
  faulted : ∀ e, result = .error e → t.stage = .faulted ∧ t.connection.state = .faulted ∧
    t.connection.channel = none ∧ t.link.openHandles = 0

theorem connectEnds_of_dialled (hbalanced : Balanced s.connection s.link) {after : List Action}
    {answer : Except ConnectionError Unit} (hanswer : s.Answers (s.call .connect).2 after answer)
    (h : Drifts (s.dialled config answer) t) :
    s.ConnectEnds config after (answer.mapError .connection) t := by
  have hhandles : (s.connection.dropChannel s.link).openHandles = 0 := hbalanced.close.handles
  have hdeliveries := Connection.dropChannel_deliveries s.connection s.link
  cases answer with
  | ok =>
    refine ⟨h.alike.targets, h.alike.deliveries.trans hdeliveries, ⟨_, hanswer, rfl, h⟩,
      fun _ => ⟨h.stage, ?_, ?_, ?_, ?_⟩, nofun⟩
    · exact congrArg Connection.state h.connection
    · exact congrArg Connection.channel h.connection
    · exact congrArg Connection.target h.connection
    · exact h.alike.openHandles.trans (congrArg (· + 1) hhandles)
  | error e =>
    refine ⟨h.alike.targets, h.alike.deliveries.trans hdeliveries, ⟨_, hanswer, rfl, h⟩,
      nofun, fun _ _ => ⟨h.stage, ?_, ?_, ?_⟩⟩
    · exact congrArg Connection.state h.connection
    · exact congrArg Connection.channel h.connection
    · exact h.alike.openHandles.trans hhandles

/-- A connect that waits can come to an end. -/
theorem exists_dialled (hactivity : s.activity = .waiting)
    (h : Drifts (s.dials config) t ∨ ∃ due, Drifts (s.dialling config due) t) :
    ∃ more answer, Uncalled more ∧ Drifts (s.dialled config answer) (t.run more) := by
  have hopening : ∀ u due, Drifts (s.dialling config due) u →
      ∃ more answer, Uncalled more ∧ Drifts (s.dialled config answer) (u.run more) := by
    intro u due h
    obtain ⟨answer, hended⟩ := dialled_after h
    exact ⟨[.advance due, .work], answer, by simp [Uncalled], hended⟩
  rcases h with h | ⟨due, h⟩
  · obtain ⟨due, hnext⟩ := dialling_of_dials hactivity h
    obtain ⟨more, answer, hcalls, hended⟩ := hopening _ due hnext
    refine ⟨.work :: more, answer, ?_, hended⟩
    rintro a ha
    rcases List.mem_cons.1 ha with rfl | ha
    · simp
    · exact hcalls a ha
  · exact hopening t due h

theorem ticket_dialled {answer : Except ConnectionError Unit}
    (h : Drifts (s.dialled config answer) t) :
    t.tickets[s.tickets.length]? = some (some (answer.mapError .connection)) := by
  rw [h.tickets]
  cases answer <;> exact List.getElem?_concat_length

theorem leads_connect (hqueue : s.queue = []) (hactivity : s.activity = .waiting)
    (hbalanced : Balanced s.connection s.link) (hhandles : s.link.openHandles = 0)
    (hconfig : s.config = some config) (hstage : s.stage = .idle ∨ s.stage = .faulted) :
    s.Leads .connect (s.ConnectWaits config) (s.ConnectEnds config) := by
  have hcall := call_connect hqueue hactivity hconfig hstage
  have hnone : (s.tickets ++ [none])[s.tickets.length]? = some none := List.getElem?_concat_length
  refine leads_of_cases hcall fun after hcalls halive => ?_
  -- a connect that waits can come to an end
  have hfinishes : ∀ h : Drifts (s.dials config) ((s.dials config).run after) ∨
      ∃ due, Drifts (s.dialling config due) ((s.dials config).run after),
      ∃ more result, Uncalled more ∧
        (((s.dials config).run after).run more).activity ≠ .stopped ∧
        (((s.dials config).run after).run more).tickets[s.tickets.length]? =
          some (some result) := by
    intro h
    obtain ⟨more, answer, hmore, hended⟩ := exists_dialled hactivity h
    refine ⟨more, answer.mapError .connection, hmore, ?_, ticket_dialled hended⟩
    rw [hended.activity, (dialled_rests s config answer).1]
    simp
  cases connecting_run hactivity hcalls halive with
  | queued h =>
    exact .inl ⟨h.tickets ▸ hnone, ⟨h.alike.openHandles.trans hhandles, .inl h.alike.targets⟩,
      hfinishes (.inl h)⟩
  | opening due h =>
    exact .inl ⟨h.tickets ▸ hnone,
      ⟨h.alike.openHandles.trans hbalanced.close.handles, .inr h.alike.targets⟩,
      hfinishes (.inr ⟨due, h⟩)⟩
  | ended answer hanswer h =>
    refine .inr ⟨answer.mapError .connection, ticket_dialled h, ?_⟩
    have hdials : (s.call .connect).2 = s.dials config := congrArg Prod.snd hcall
    rw [← hdials] at hanswer
    exact connectEnds_of_dialled hbalanced hanswer h

/-! ### Any call at rest -/

theorem Called.shutdown_eq {c : Call} {answer : Answer} (h : Called s c answer t)
    (hc : c ≠ .shutdown) : t.shutdown = s.shutdown := by
  cases h with
  | shutdown => exact absurd rfl hc
  | connectClosed => rw [enter_eq, enter_eq]
  | _ => rfl

/-- What calls come to that are made at rest. -/
structure Lifecycle (s : Spooler) : Prop where
  stage : s.stage = .idle ∨ s.stage = .ready ∨ s.stage = .faulted
  /-- The worker does not stop unless it was asked to. -/
  running : s.shutdown = false → ∀ c after, c ≠ .shutdown → Uncalled after →
    (s.run (.call c :: after)).activity ≠ .stopped
  configure : ∀ options config, Config.build options = .ok config →
    s.Leads (.configure options) (Drifts (s.call (.configure options)).2)
      fun _ result t => result = .ok () ∧ s.Configured config t
  connect : ∀ config, s.config = some config → s.stage = .idle ∨ s.stage = .faulted →
    s.Leads .connect (s.ConnectWaits config) (s.ConnectEnds config)
  connected : s.stage = .ready → (s.call .connect).2 = s ∧
    (s.config ≠ none → (s.call .connect).1 = .done (.ok ()))
  disconnect : s.Leads .disconnect (Drifts (s.call .disconnect).2)
    fun _ result t => result = .ok () ∧ s.Forgotten t

theorem connect_of_ready (hstage : s.stage = .ready) : (s.call .connect).2 = s ∧
    (s.config ≠ none → (s.call .connect).1 = .done (.ok ())) := by
  rw [call, connect]
  cases hconfig : s.requireConfig with
  | error e =>
    refine ⟨rfl, fun hne => ?_⟩
    obtain ⟨config, hsome⟩ := Option.ne_none_iff_exists'.1 hne
    rw [requireConfig_eq_ok_iff.2 hsome] at hconfig
    cases hconfig
  | ok config => simp [hstage]

/-- `Lifecycle` holds in every run when the worker is alive and nothing is outstanding: calls to
configure, to connect and to disconnect have their effect and no other, however long the link takes
and however it answers. -/
theorem lifecycle_of_rest (writeDeadline drainDelay : Nat) (actions : List Action)
    (hqueue : ((start writeDeadline drainDelay).run actions).queue = [])
    (hactivity : ((start writeDeadline drainDelay).run actions).activity = .waiting) :
    ((start writeDeadline drainDelay).run actions).Lifecycle := by
  have hagrees := agrees_of_waiting writeDeadline drainDelay actions hactivity
  have hbalanced := (tidy_run writeDeadline drainDelay actions).balanced
  generalize (start writeDeadline drainDelay).run actions = s at *
  have hhandles : s.stage = .idle ∨ s.stage = .faulted → s.link.openHandles = 0 := by
    intro hstage
    have hchannel : s.connection.channel.isSome = false := by
      rw [Bool.eq_false_iff, ne_eq, ← hbalanced.connected, ← hagrees.ready_iff]
      rcases hstage with hstage | hstage <;> simp [hstage]
    rw [hbalanced.handles, hchannel]
    rfl
  refine ⟨?_, fun hshutdown c after hc hcalls => ?_, fun options config hconfig => ?_,
    fun config hconfig hstage => ?_, connect_of_ready, ?_⟩
  · cases hstage : s.stage with
    | connecting =>
      obtain ⟨-, config, ticket, hmem⟩ := hagrees.connecting hstage
      rw [hqueue] at hmem
      cases hmem
    | printing => exact absurd hstage hagrees.not_printing
    | _ => simp
  · have hcalled := called s c
    refine running_of_uncalled (s := (s.call c).2) ?_ ?_ hcalls
    · rw [hcalled.shutdown_eq hc, hshutdown]
    · rw [hcalled.activity, hactivity]
      simp
  · exact leads_configure hqueue hactivity hbalanced hconfig
  · exact leads_connect hqueue hactivity hbalanced (hhandles hstage) hconfig hstage
  · exact leads_disconnect hqueue hactivity hbalanced

/-- A ready spooler is at rest. -/
theorem lifecycle_of_ready :
    ((start 1000 100).run untilReady).queue = [] ∧
    ((start 1000 100).run untilReady).activity = .waiting ∧
    ((start 1000 100).run untilReady).Lifecycle :=
  ⟨rfl, rfl, lifecycle_of_rest 1000 100 untilReady rfl rfl⟩

end ReceiptPrinter.Spooler

import ReceiptPrinter.Proofs.Link.Operations

/-!
# Channels of a connection

A connection is opened, written to, flushed and closed in any order, while the link behind it fails
and delays what it likes. What the connection does to its channels goes into a `log`. The log is the
`Life` of one channel after another's, each closed before the next is made; nothing is sent over a
channel after a failure on it, and the connection is open exactly while the last channel is alive.
-/

namespace ReceiptPrinter

/-! ### Open handles -/

/-- A connection is open exactly if it holds a channel, that channel is the only open handle, and
every connect was disconnected or is that handle. -/
structure Balanced (c : Connection) (link : Link) : Prop where
  connected : c.state = .connected ↔ c.channel.isSome = true
  isOpen : ∀ channel, c.channel = some channel → channel.isOpen = true
  handles : link.openHandles = if c.channel.isSome then 1 else 0
  conserved : link.connects = link.disconnects + link.openHandles

namespace Balanced

variable {c d : Connection} {link link' : Link} {channel : Channel}

/-- `Balanced` is about the counts of a link alone. -/
theorem congr (h : Balanced c link) (hconnects : link'.connects = link.connects)
    (hdisconnects : link'.disconnects = link.disconnects)
    (hhandles : link'.openHandles = link.openHandles) : Balanced c link' where
  connected := h.connected
  isOpen := h.isOpen
  handles := hhandles.trans h.handles
  conserved := by rw [hconnects, hdisconnects, hhandles, h.conserved]

theorem change (h : Balanced c link) (ch : LinkChange) : Balanced c (link.change ch) := by
  cases ch <;> exact h.congr rfl rfl rfl

theorem disconnect_held (h : Balanced c link) (hchannel : c.channel = some channel) :
    c.dropChannel link =
      { link with disconnects := link.disconnects + 1, openHandles := link.openHandles - 1 } := by
  simp only [Connection.dropChannel, hchannel, Link.disconnect, h.isOpen channel hchannel, if_true]

/-- `dropChannel` leaves no handle open. -/
theorem drop (h : Balanced c link) (hchannel : d.channel = none)
    (hstate : d.state ≠ .connected) : Balanced d (c.dropChannel link) where
  connected := by simp [hchannel, hstate]
  isOpen := by simp [hchannel]
  handles := by
    rw [hchannel]
    cases hheld : c.channel with
    | none =>
      simp only [Connection.dropChannel, hheld]
      rw [h.handles, hheld]
    | some channel =>
      have hone : link.openHandles = 1 := by rw [h.handles, hheld]; rfl
      rw [h.disconnect_held hheld, hone]
      rfl
  conserved := by
    have hconserved := h.conserved
    cases hheld : c.channel with
    | none => simpa only [Connection.dropChannel, hheld] using hconserved
    | some channel =>
      have hone : link.openHandles = 1 := by rw [h.handles, hheld]; rfl
      simp only [h.disconnect_held hheld]
      omega

theorem close (h : Balanced c link) : Balanced (c.close link).1 (c.close link).2 :=
  h.drop rfl (by simp [Connection.close])

theorem fault (h : Balanced c link) : Balanced (c.fault link).1 (c.fault link).2 :=
  h.drop rfl (by simp [Connection.fault])

theorem startOpen (h : Balanced c link) (target : Target) :
    Balanced (c.startOpen link target).2.1 (c.startOpen link target).2.2 :=
  (h.drop rfl (by simp [Connection.startOpen])).congr rfl rfl rfl

theorem finishOpen (h : Balanced c link) (hnone : c.channel = none)
    (hclosed : channel.isOpen = false) :
    Balanced (c.finishOpen link channel).2.1 (c.finishOpen link channel).2.2 := by
  have hhandles : link.openHandles = 0 := by rw [h.handles, hnone]; rfl
  have hconserved := h.conserved
  cases hfault : link.connectFault with
  | none =>
    have hlink : (link.finishConnect channel).2.2 =
        { link with connects := link.connects + 1, openHandles := link.openHandles + 1 } := by
      rw [Link.finishConnect, hfault]
      simp [hclosed]
    rw [Connection.finishOpen_eq_ok hfault, hlink]
    exact ⟨by simp, by simp, by simp [hhandles], by simp only; omega⟩
  | some e =>
    have hlink : ({ link with connectFault := none }.disconnect channel).2 =
        { link with connectFault := none } := by simp [Link.disconnect, hclosed]
    rw [Connection.finishOpen_eq_error hfault, hlink]
    exact ⟨by simp [hnone], by simp [hnone], by simp [hnone, hhandles], h.conserved⟩

end Balanced

/-! ### Uses of a connection -/

/-- What is sent over a channel. -/
inductive Message where
  | write (bytes : List UInt8)
  | flush

/-- Everything that may happen to a connection and its link; openings, writes and flushes come with
the changes of the link while they are on their way. -/
inductive Use where
  | openTo (target : Target) (changes : List LinkChange)
  | send (message : Message) (changes : List LinkChange)
  | close
  | change (c : LinkChange)

/-- What a connection does to a channel. -/
inductive Signal where
  /-- The channel was made and asked to connect. -/
  | opened (channel : Nat) (result : Except ConnectionError Unit)
  | sent (channel : Nat) (message : Message) (result : Except ConnectionError Unit)
  | closed (channel : Nat)

def Signal.delivery? : Signal → Option Delivery
  | .sent channel (.write bytes) (.ok ()) => some ⟨channel, bytes⟩
  | _ => none

def Link.changeAll (link : Link) (changes : List LinkChange) : Link :=
  changes.foldl Link.change link

namespace Connection

def startSend (c : Connection) (link : Link) : Message → Except ConnectionError Flight
  | .write _ => c.startWrite link
  | .flush => c.startFlush link

def finishSend (c : Connection) (link : Link) (late : Bool) :
    Message → Except ConnectionError Unit × Connection × Link
  | .write bytes => c.finishWrite link bytes late
  | .flush => c.finishFlush link late

/-- The result of a use, and the connection and the link after it. -/
def use (c : Connection) (link : Link) : Use → Except ConnectionError Unit × Connection × Link
  | .openTo target changes =>
    let (channel, c, link) := c.startOpen link target
    c.finishOpen (link.changeAll changes) channel
  | .send message changes =>
    match c.startSend link message with
    | .error e => c.settle link (.error e)
    | .ok flight => c.finishSend (link.changeAll changes) flight.late message
  | .close => (.ok (), c.close link)
  | .change ch => (.ok (), c, link.change ch)

def closing (c : Connection) : List Signal :=
  c.channel.toList.map fun channel => .closed channel.number

/-- The signals of a use, in order. -/
def signals (c : Connection) (link : Link) (u : Use) : List Signal :=
  let result := (c.use link u).1
  match u with
  | .openTo target _ =>
    let number := (c.startOpen link target).1.number
    match result with
    | .ok () => c.closing ++ [.opened number result]
    | .error _ => c.closing ++ [.opened number result, .closed number]
  | .send message _ =>
    match c.liveChannel with
    | .error _ => c.closing
    | .ok channel =>
      match result with
      | .ok () => [.sent channel.number message result]
      | .error _ => .sent channel.number message result :: c.closing
  | .close => c.closing
  | .change _ => []

/-- The connection and the link after uses in order. -/
def useAll (c : Connection) (link : Link) : List Use → Connection × Link
  | [] => (c, link)
  | u :: uses => (c.use link u).2.1.useAll (c.use link u).2.2 uses

/-- The signals of uses, in order. -/
def log (c : Connection) (link : Link) : List Use → List Signal
  | [] => []
  | u :: uses => c.signals link u ++ (c.use link u).2.1.log (c.use link u).2.2 uses

variable (c : Connection) (link : Link)

/-- Without changes on the way `use` is `openTo`, `write` or `flush` of the connection. -/
theorem use_openTo_nil (target : Target) : c.use link (.openTo target []) =
    ((c.openTo link target).result, (c.openTo link target).connection,
      (c.openTo link target).link) := rfl

theorem use_write_nil (bytes : List UInt8) : c.use link (.send (.write bytes) []) =
    ((c.write link bytes).result, (c.write link bytes).connection, (c.write link bytes).link) := by
  simp only [use, startSend, write]
  cases c.startWrite link with
  | error e => rfl
  | ok flight => rfl

theorem use_flush_nil : c.use link (.send .flush []) =
    ((c.flush link).result, (c.flush link).connection, (c.flush link).link) := by
  simp only [use, startSend, flush]
  cases c.startFlush link with
  | error e => rfl
  | ok flight => rfl

end Connection

/-! ### Lives of channels -/

/-- The life of a channel that is over. -/
inductive Life where
  /-- Its connect failed. -/
  | refused (e : ConnectionError)
  /-- It connected, and messages got through until it was closed or one of them failed. -/
  | connected (sent : List Message) (failure : Option (Message × ConnectionError))

def Life.isConnected : Life → Bool
  | .refused _ => false
  | .connected .. => true

/-- The signals of a channel that is open and over which messages got through. -/
def livingSignals (number : Nat) (sent : List Message) : List Signal :=
  .opened number (.ok ()) :: sent.map fun message => .sent number message (.ok ())

/-- The signals of a message that failed. -/
def failingSignals (number : Nat) (failure : Option (Message × ConnectionError)) : List Signal :=
  failure.toList.map fun (message, e) => .sent number message (.error e)

/-- The signals of a channel whose life is over. -/
def Life.signals (number : Nat) : Life → List Signal
  | .refused e => [.opened number (.error e), .closed number]
  | .connected sent failure =>
    livingSignals number sent ++ failingSignals number failure ++ [.closed number]

/-- How connection, link and log come to channels whose lives are over, and one that is alive and
over which messages got through. -/
structure Chronicle (c : Connection) (link : Link) (log : List Signal) (past : List Life)
    (living : Option (List Message)) : Prop where
  signals : log = (past.mapIdx Life.signals).flatten ++
    living.toList.flatMap (livingSignals past.length)
  channel : c.channel = living.map fun _ => { number := past.length, isOpen := true }
  made : link.targets.length = past.length + living.toList.length
  disconnects : link.disconnects = past.countP Life.isConnected
  deliveries : link.deliveries = log.filterMap Signal.delivery?

namespace Chronicle

variable {c d : Connection} {link link' : Link} {log : List Signal} {past : List Life}
  {living : Option (List Message)} {messages : List Message}

theorem congr (h : Chronicle c link log past living) (hchannel : d.channel = c.channel)
    (htargets : link'.targets = link.targets) (hdisconnects : link'.disconnects = link.disconnects)
    (hdeliveries : link'.deliveries = link.deliveries) : Chronicle d link' log past living where
  signals := h.signals
  channel := hchannel.trans h.channel
  made := by rw [htargets, h.made]
  disconnects := hdisconnects.trans h.disconnects
  deliveries := hdeliveries.trans h.deliveries

theorem living_of_channel {channel : Channel} (h : Chronicle c link log past living)
    (hchannel : c.channel = some channel) :
    ∃ messages, living = some messages ∧ { number := past.length, isOpen := true } = channel := by
  cases living with
  | none => cases h.channel.symm.trans hchannel
  | some messages => exact ⟨messages, rfl, Option.some.inj (h.channel.symm.trans hchannel)⟩

theorem connected (h : Chronicle c link log past none)
    (hchannel : d.channel = some { number := past.length, isOpen := true })
    (hmade : link'.targets.length = past.length + 1)
    (hdisconnects : link'.disconnects = link.disconnects)
    (hdeliveries : link'.deliveries = link.deliveries) :
    Chronicle d link' (log ++ [.opened past.length (.ok ())]) past (some []) where
  signals := by simp [h.signals, livingSignals]
  channel := hchannel
  made := hmade
  disconnects := hdisconnects.trans h.disconnects
  deliveries := by simp [hdeliveries, h.deliveries, Signal.delivery?]

theorem refused (h : Chronicle c link log past none) (hchannel : d.channel = none)
    (hmade : link'.targets.length = past.length + 1)
    (hdisconnects : link'.disconnects = link.disconnects)
    (hdeliveries : link'.deliveries = link.deliveries) (e : ConnectionError) :
    Chronicle d link' (log ++ [.opened past.length (.error e), .closed past.length])
      (past ++ [.refused e]) none where
  signals := by simp [h.signals, List.mapIdx_concat, Life.signals]
  channel := hchannel
  made := by simp [hmade]
  disconnects := by simp [hdisconnects, h.disconnects, Life.isConnected]
  deliveries := by simp [hdeliveries, h.deliveries, Signal.delivery?]

theorem passed (h : Chronicle c link log past (some messages)) (message : Message)
    (htargets : link'.targets = link.targets) (hdisconnects : link'.disconnects = link.disconnects)
    (hdeliveries : link'.deliveries =
      link.deliveries ++ (Signal.sent past.length message (.ok ())).delivery?.toList) :
    Chronicle c link' (log ++ [.sent past.length message (.ok ())]) past
      (some (messages ++ [message])) where
  signals := by simp [h.signals, livingSignals]
  channel := h.channel
  made := by rw [htargets, h.made]; rfl
  disconnects := hdisconnects.trans h.disconnects
  deliveries := by
    rw [hdeliveries, h.deliveries, List.filterMap_append]
    cases hdelivery : (Signal.sent past.length message (.ok ())).delivery? <;> simp [hdelivery]

/-- The living channel is closed, perhaps after a message that failed. -/
theorem ended (h : Chronicle c link log past (some messages)) (hchannel : d.channel = none)
    (failure : Option (Message × ConnectionError)) :
    Chronicle d (c.dropChannel link) (log ++ (failingSignals past.length failure ++ c.closing))
      (past ++ [.connected messages failure]) none := by
  have hclosing : c.closing = [.closed past.length] := by simp [Connection.closing, h.channel]
  have hsilent : (failingSignals past.length failure).filterMap Signal.delivery? = [] := by
    cases failure <;> simp [failingSignals, Signal.delivery?]
  have hlink : c.dropChannel link =
      { link with disconnects := link.disconnects + 1, openHandles := link.openHandles - 1 } := by
    simp [Connection.dropChannel, h.channel, Link.disconnect]
  exact {
    signals := by simp [h.signals, hclosing, List.mapIdx_concat, Life.signals]
    channel := hchannel
    made := by simp [hlink, h.made]
    disconnects := by simp [hlink, h.disconnects, Life.isConnected]
    deliveries := by
      simp only [hlink, List.filterMap_append, hsilent, hclosing, h.deliveries]
      simp [Signal.delivery?] }

theorem closed (h : Chronicle c link log past living) (hchannel : d.channel = none) :
    ∃ past', Chronicle d (c.dropChannel link) (log ++ c.closing) past' none := by
  cases living with
  | some messages => exact ⟨_, h.ended hchannel none⟩
  | none =>
    have hnone : c.channel = none := h.channel
    refine ⟨past, ?_⟩
    simp only [Connection.closing, Connection.dropChannel, hnone, Option.toList_none,
      List.map_nil, List.append_nil]
    exact h.congr (hchannel.trans hnone.symm) rfl rfl rfl

end Chronicle

/-! ### Uses in any order -/

theorem Link.changeAll_records (link : Link) (changes : List LinkChange) :
    (link.changeAll changes).targets = link.targets ∧
    (link.changeAll changes).disconnects = link.disconnects ∧
    (link.changeAll changes).deliveries = link.deliveries := by
  induction changes generalizing link with
  | nil => exact ⟨rfl, rfl, rfl⟩
  | cons ch changes ih =>
    obtain ⟨htargets, hdisconnects, hdeliveries⟩ := ih (link.change ch)
    cases ch <;> exact ⟨htargets, hdisconnects, hdeliveries⟩

theorem Balanced.changeAll {c : Connection} {link : Link} (h : Balanced c link)
    (changes : List LinkChange) : Balanced c (link.changeAll changes) := by
  induction changes generalizing link with
  | nil => exact h
  | cons ch changes ih => exact ih (h.change ch)

theorem Chronicle.changeAll {c : Connection} {link : Link} {log : List Signal} {past : List Life}
    {living : Option (List Message)} (h : Chronicle c link log past living)
    (changes : List LinkChange) : Chronicle c (link.changeAll changes) log past living := by
  obtain ⟨htargets, hdisconnects, hdeliveries⟩ := link.changeAll_records changes
  exact h.congr rfl htargets hdisconnects hdeliveries

def Link.receive (link : Link) (channel : Channel) : Message → Link
  | .write bytes => link.deliver channel bytes
  | .flush => link

/-- A message is not sent over a connection that is not open; over an open one it fails, which
faults the connection, or gets through. -/
theorem Connection.use_send_cases {c : Connection} {link : Link} (h : Balanced c link)
    (message : Message) (changes : List LinkChange) :
    (∃ e, c.liveChannel = .error e ∧
      c.use link (.send message changes) = (.error e, c.fault link)) ∨
    ∃ channel, c.liveChannel = .ok channel ∧
      ((∃ e, c.use link (.send message changes) = (.error e, c.fault (link.changeAll changes))) ∨
      c.use link (.send message changes) =
        (.ok (), c, (link.changeAll changes).receive channel message)) := by
  cases hlive : c.liveChannel with
  | error e =>
    refine .inl ⟨e, rfl, ?_⟩
    cases message <;> simp only [use, startSend, startWrite, startFlush, hlive] <;> rfl
  | ok channel =>
    refine .inr ⟨channel, rfl, ?_⟩
    have hopen : channel.isOpen = true := h.isOpen channel (liveChannel_eq_ok_iff.1 hlive).2
    cases message with
    | write bytes =>
      have hstart : c.startSend link (.write bytes) = .ok (c.flight link.writeDelay) := by
        simp only [startSend, startWrite, hlive, ok_bind, Link.startWrite, hopen, if_true]
        rfl
      simp only [use, hstart, finishSend]
      obtain ⟨e, he⟩ | ⟨channel', -, hlive', -, hok⟩ :=
        c.finishWrite_cases (link.changeAll changes) bytes (c.flight link.writeDelay).late
      · exact .inl ⟨e, he⟩
      · rw [hlive] at hlive'
        cases hlive'
        exact .inr hok
    | flush =>
      have hstart : c.startSend link .flush = .ok (c.flight link.flushDelay) := by
        simp only [startSend, startFlush, hlive, ok_bind]
        rfl
      simp only [use, hstart, finishSend]
      obtain ⟨e, he⟩ | ⟨-, -, hok⟩ :=
        c.finishFlush_cases (link.changeAll changes) (c.flight link.flushDelay).late
      · exact .inl ⟨e, he⟩
      · exact .inr hok

/-- The invariant of `useAll`: every handle is `Balanced` and every signal in a `Chronicle`. -/
structure Accounted (c : Connection) (link : Link) (log : List Signal) : Prop where
  balanced : Balanced c link
  chronicle : ∃ past living, Chronicle c link log past living

namespace Accounted

variable {c : Connection} {link : Link} {log : List Signal}

theorem openTo (h : Accounted c link log) (target : Target) (changes : List LinkChange) :
    Accounted (c.use link (.openTo target changes)).2.1 (c.use link (.openTo target changes)).2.2
      (log ++ c.signals link (.openTo target changes)) where
  balanced := ((h.balanced.startOpen target).changeAll changes).finishOpen rfl rfl
  chronicle := by
    obtain ⟨past, living, hchronicle⟩ := h.chronicle
    obtain ⟨past', hclosed⟩ := hchronicle.closed (d := (c.startOpen link target).2.1) rfl
    have hnumber : (c.startOpen link target).1 = { number := past'.length } :=
      congrArg (Channel.mk · false) hclosed.made
    obtain ⟨htargets, hdisconnects, hdeliveries⟩ :=
      (c.startOpen link target).2.2.changeAll_records changes
    have hmade : ((c.startOpen link target).2.2.changeAll changes).targets.length =
        past'.length + 1 := by
      rw [htargets]
      exact List.length_append.trans (congrArg (· + 1) hclosed.made)
    have huse : c.use link (.openTo target changes) = (c.startOpen link target).2.1.finishOpen
        ((c.startOpen link target).2.2.changeAll changes) { number := past'.length } := by
      rw [← hnumber]
      rfl
    cases hfault : ((c.startOpen link target).2.2.changeAll changes).connectFault with
    | none =>
      rw [Connection.finishOpen_eq_ok hfault] at huse
      have hsignals : c.signals link (.openTo target changes) =
          c.closing ++ [.opened past'.length (.ok ())] := by
        simp only [Connection.signals, huse, hnumber]
      rw [huse, hsignals, ← List.append_assoc]
      refine ⟨past', some [], hclosed.connected rfl ?_ ?_ ?_⟩
      · rw [Link.finishConnect_targets, hmade]
      · rw [Link.finishConnect_disconnects, hdisconnects]
        rfl
      · rw [Link.finishConnect_deliveries, hdeliveries]
        rfl
    | some e =>
      rw [Connection.finishOpen_eq_error hfault] at huse
      have hsignals : c.signals link (.openTo target changes) =
          c.closing ++ [.opened past'.length (.error e), .closed past'.length] := by
        simp only [Connection.signals, huse, hnumber]
      rw [huse, hsignals, ← List.append_assoc]
      refine ⟨_, none, hclosed.refused rfl ?_ ?_ ?_ e⟩
      · exact hmade
      · exact hdisconnects
      · exact hdeliveries

theorem send (h : Accounted c link log) (message : Message) (changes : List LinkChange) :
    Accounted (c.use link (.send message changes)).2.1 (c.use link (.send message changes)).2.2
      (log ++ c.signals link (.send message changes)) := by
  obtain ⟨past, living, hchronicle⟩ := h.chronicle
  obtain ⟨e, hlive, huse⟩ | ⟨channel, hlive, hcases⟩ :=
    Connection.use_send_cases h.balanced message changes
  · have hsignals : c.signals link (.send message changes) = c.closing := by
      simp only [Connection.signals, hlive]
    obtain ⟨past', hclosed⟩ := hchronicle.closed (d := (c.fault link).1) rfl
    rw [huse, hsignals]
    exact ⟨h.balanced.fault, past', none, hclosed⟩
  · have hbalanced := h.balanced.changeAll changes
    have hchannel := (Connection.liveChannel_eq_ok_iff.1 hlive).2
    obtain ⟨messages, rfl, rfl⟩ := hchronicle.living_of_channel hchannel
    obtain ⟨e, huse⟩ | huse := hcases
    · have hsignals : c.signals link (.send message changes) =
          failingSignals past.length (some (message, e)) ++ c.closing := by
        simp only [Connection.signals, hlive, huse]
        rfl
      rw [huse, hsignals]
      exact ⟨hbalanced.fault, _, none, (hchronicle.changeAll changes).ended rfl _⟩
    · have hsignals : c.signals link (.send message changes) =
          [.sent past.length message (.ok ())] := by
        simp only [Connection.signals, hlive, huse]
      rw [huse, hsignals]
      refine ⟨?_, past, _, (hchronicle.changeAll changes).passed message ?_ ?_ ?_⟩
      · cases message <;> exact hbalanced.congr rfl rfl rfl
      · cases message <;> rfl
      · cases message <;> rfl
      · cases message <;> simp [Link.receive, Link.deliver, Signal.delivery?]

theorem use (h : Accounted c link log) (u : Use) :
    Accounted (c.use link u).2.1 (c.use link u).2.2 (log ++ c.signals link u) := by
  cases u with
  | openTo target changes => exact h.openTo target changes
  | send message changes => exact h.send message changes
  | close =>
    obtain ⟨past, living, hchronicle⟩ := h.chronicle
    obtain ⟨past', hclosed⟩ := hchronicle.closed (d := (c.close link).1) rfl
    exact ⟨h.balanced.close, past', none, hclosed⟩
  | change ch =>
    obtain ⟨past, living, hchronicle⟩ := h.chronicle
    rw [Connection.signals, List.append_nil]
    exact ⟨h.balanced.changeAll [ch], past, living, hchronicle.changeAll [ch]⟩

theorem useAll (h : Accounted c link log) (uses : List Use) :
    Accounted (c.useAll link uses).1 (c.useAll link uses).2 (log ++ c.log link uses) := by
  induction uses generalizing c link log with
  | nil =>
    rw [Connection.log, List.append_nil]
    exact h
  | cons u uses ih =>
    rw [Connection.log, ← List.append_assoc]
    exact ih (h.use u)

end Accounted

theorem accounted_start (deadline : Nat) : Accounted { deadline } {} [] where
  balanced := ⟨by simp, by simp, rfl, rfl⟩
  chronicle := ⟨[], none, rfl, rfl, rfl, rfl, rfl⟩

/-- For `uses` in any order, over links that behave as they like, `log` is the lives of channels one
after another, the last of them alive exactly while the connection is open. An open connection has
its channel as the only open handle, any other has none, also when the next channel is made, and so
the count of open handles never falls below zero. -/
theorem channels_of_uses (deadline : Nat) (uses : List Use) :
    let c := (Connection.useAll { deadline } {} uses).1
    let link := (Connection.useAll { deadline } {} uses).2
    (c.state = .connected ↔ c.channel.isSome = true) ∧
    (∀ channel, c.channel = some channel →
      channel.isOpen = true ∧ channel.number + 1 = link.targets.length ∧ 0 < link.openHandles) ∧
    link.connects = link.disconnects + link.openHandles ∧
    link.openHandles = (if c.state = .connected then 1 else 0) ∧
    (∀ target, (c.startOpen link target).2.2.openHandles = 0) ∧
    ∃ past living, Chronicle c link (Connection.log { deadline } {} uses) past living := by
  intro c link
  have haccounted : Accounted c link (Connection.log { deadline } {} uses) :=
    (accounted_start deadline).useAll uses
  obtain ⟨past, living, hchronicle⟩ := haccounted.chronicle
  have hbalanced := haccounted.balanced
  refine ⟨hbalanced.connected, ?_, hbalanced.conserved, ?_, ?_, past, living, hchronicle⟩
  · intro channel hchannel
    obtain ⟨messages, rfl, rfl⟩ := hchronicle.living_of_channel hchannel
    refine ⟨rfl, hchronicle.made.symm, ?_⟩
    rw [hbalanced.handles, hchannel]
    exact Nat.one_pos
  · rw [hbalanced.handles]
    simp only [hbalanced.connected]
  · intro target
    exact (hbalanced.startOpen target).handles

end ReceiptPrinter

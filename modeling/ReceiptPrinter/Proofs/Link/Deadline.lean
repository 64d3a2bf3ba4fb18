import ReceiptPrinter.Proofs.Link.Channels

/-!
# Writes and flushes under a deadline

A write or a flush races against the timer of its deadline, while the link behind it changes what it
likes. `race` runs it millisecond by millisecond: the operation is looked at before the timer, and
the one that is over first ends the race. After any uses of a connection, a message over an open
channel takes its delay or the deadline, whichever is shorter, and gets through exactly if the delay
is no longer and no fault is set at its end (`Timed`). After any error the connection is `Faulted`:
nothing more gets through, or takes time, until the connection is opened again.
-/

namespace ReceiptPrinter

/-! ### The race -/

/-- What changes outside in every millisecond of an operation. -/
abbrev Timeline := Nat → List LinkChange

/-- The changes of the first `ms` milliseconds. -/
def Timeline.before (timeline : Timeline) (ms : Nat) : List LinkChange :=
  (List.range ms).flatMap timeline

/-- The race of an operation that takes `delay` with the timer of `deadline`, and the link at its
end. -/
def race : (delay deadline : Nat) → Timeline → Link → Flight × Link
  | 0, _, _, link => (⟨0, false⟩, link)
  | _ + 1, 0, _, link => (⟨0, true⟩, link)
  | delay + 1, deadline + 1, timeline, link =>
    let (flight, link) :=
      race delay deadline (fun ms => timeline (ms + 1)) (link.changeAll (timeline 0))
    ({ flight with wait := flight.wait + 1 }, link)

namespace Timeline

variable (timeline : Timeline)

theorem before_succ (ms : Nat) :
    timeline.before (ms + 1) = timeline 0 ++ before (fun ms => timeline (ms + 1)) ms := by
  rw [before, before, List.range_succ_eq_map, List.flatMap_cons, List.flatMap_map]

theorem before_quiet (ms : Nat) : before (fun _ => []) ms = [] :=
  List.flatMap_eq_nil_iff.2 fun _ _ => rfl

end Timeline

/-- The shorter of the two times ends the race, and a tie is the operation's. -/
theorem race_eq (delay deadline : Nat) (timeline : Timeline) (link : Link) :
    race delay deadline timeline link = (⟨min delay deadline, deadline < delay⟩,
      link.changeAll (timeline.before (min delay deadline))) := by
  induction delay generalizing deadline timeline link with
  | zero =>
    rw [Nat.zero_min, decide_eq_false (Nat.not_lt_zero deadline)]
    rfl
  | succ delay ih =>
    cases deadline with
    | zero => rfl
    | succ deadline =>
      rw [race, ih, Nat.succ_min_succ, Timeline.before_succ, Link.changeAll, Link.changeAll,
        Link.changeAll, List.foldl_append]
      simp only [Nat.add_lt_add_iff_right]

/-! ### Messages -/

namespace Message

def lateError (deadline : Nat) : Message → ConnectionError
  | write bytes =>
    ⟨.timeout, s!"write of {bytes.length} bytes did not finish within {durationText deadline}"⟩
  | flush => ⟨.timeout, s!"flush did not finish within {durationText deadline}"⟩

def deliveries (channel : Nat) : Message → List Delivery
  | write bytes => [⟨channel, bytes⟩]
  | flush => []

end Message

namespace Link

def delayOf (link : Link) : Message → Nat
  | .write _ => link.writeDelay
  | .flush => link.flushDelay

def faultOf (link : Link) : Message → Option ConnectionError
  | .write _ => link.writeFault
  | .flush => link.flushFault

theorem receive_deliveries (link : Link) (channel : Channel) (message : Message) :
    (link.receive channel message).deliveries =
      link.deliveries ++ message.deliveries channel.number := by
  cases message with
  | write bytes => rfl
  | flush => exact (List.append_nil _).symm

end Link

namespace Connection

variable {c : Connection} {link : Link} {channel : Channel} {message : Message}
  {e : ConnectionError}

/-- Sends a message while the link changes by `timeline`. -/
def transmit (c : Connection) (link : Link) (message : Message) (timeline : Timeline) : Outcome :=
  match c.startSend link message with
  | .error e =>
    let (result, c, link) := c.settle link (.error e)
    ⟨result, c, link, 0⟩
  | .ok _ =>
    let (flight, link) := race (link.delayOf message) c.deadline timeline link
    let (result, c, link) := c.finishSend link flight.late message
    ⟨result, c, link, flight.wait⟩

theorem startSend_eq_error (h : c.liveChannel = .error e) (link : Link) (message : Message) :
    c.startSend link message = .error e := by
  cases message <;> simp only [startSend, startWrite, startFlush, h] <;> rfl

theorem startSend_eq_ok (h : c.liveChannel = .ok channel) (hopen : channel.isOpen = true)
    (link : Link) (message : Message) :
    c.startSend link message = .ok (c.flight (link.delayOf message)) := by
  cases message with
  | write bytes =>
    simp only [startSend, startWrite, h, ok_bind, Link.startWrite, hopen, if_true]
    rfl
  | flush =>
    simp only [startSend, startFlush, h, ok_bind]
    rfl

theorem finishSend_late (c : Connection) (link : Link) (message : Message) :
    c.finishSend link true message = (.error (message.lateError c.deadline), c.fault link) := by
  cases message <;> rfl

theorem finishSend_fault (hlive : c.liveChannel = .ok channel) (h : link.faultOf message = some e) :
    c.finishSend link false message = (.error e, c.fault link) := by
  cases message with
  | write bytes =>
    have hfault : link.writeFault = some e := h
    simp only [finishSend, finishWrite, Bool.false_eq_true, if_false, hlive, Link.finishWrite,
      hfault]
    rfl
  | flush =>
    have hfault : link.flushFault = some e := h
    simp only [finishSend, finishFlush, Bool.false_eq_true, if_false, Link.finishFlush, hfault]
    rfl

theorem finishSend_ok (hlive : c.liveChannel = .ok channel) (h : link.faultOf message = none) :
    c.finishSend link false message = (.ok (), c, link.receive channel message) := by
  cases message with
  | write bytes =>
    simp only [finishSend, finishWrite, Bool.false_eq_true, if_false, hlive,
      Link.finishWrite_eq_ok h]
    rfl
  | flush =>
    have hfault : link.flushFault = none := h
    simp only [finishSend, finishFlush, Bool.false_eq_true, if_false, Link.finishFlush, hfault]
    rfl

/-- Over a channel that is open `transmit` takes part in the `race`. -/
theorem transmit_of_live (h : c.liveChannel = .ok channel) (hopen : channel.isOpen = true)
    (message : Message) (timeline : Timeline) :
    let ms := min (link.delayOf message) c.deadline
    let done := c.finishSend (link.changeAll (timeline.before ms))
      (c.deadline < link.delayOf message) message
    c.transmit link message timeline = ⟨done.1, done.2.1, done.2.2, ms⟩ := by
  simp only [transmit, startSend_eq_ok h hopen, race_eq]

theorem transmit_of_not_live (h : c.liveChannel = .error e) (message : Message)
    (timeline : Timeline) :
    c.transmit link message timeline = ⟨.error e, (c.fault link).1, (c.fault link).2, 0⟩ := by
  simp only [transmit, startSend_eq_error h, settle]

/-- `transmit` is the use of a message with the changes up to its end. -/
theorem use_send_eq_transmit (h : Balanced c link) (message : Message) (timeline : Timeline) :
    let o := c.transmit link message timeline
    c.use link (.send message (timeline.before o.elapsed)) = (o.result, o.connection, o.link) := by
  cases hlive : c.liveChannel with
  | error e => simp only [transmit_of_not_live hlive, use, startSend_eq_error hlive, settle]
  | ok channel =>
    have hopen := h.isOpen channel (liveChannel_eq_ok_iff.1 hlive).2
    simp only [transmit_of_live hlive hopen, use, startSend_eq_ok hlive hopen, flight]

/-- Without changes `transmit` is `write`, and so for `flush`. -/
theorem transmit_write (h : Balanced c link) (bytes : List UInt8) :
    c.transmit link (.write bytes) (fun _ => []) = c.write link bytes := by
  cases hlive : c.liveChannel with
  | error e =>
    have hstart : c.startWrite link = .error e := startSend_eq_error hlive link (.write bytes)
    simp only [transmit_of_not_live hlive, write, hstart, settle]
  | ok channel =>
    have hopen := h.isOpen channel (liveChannel_eq_ok_iff.1 hlive).2
    have hstart : c.startWrite link = .ok (c.flight link.writeDelay) :=
      startSend_eq_ok hlive hopen link (.write bytes)
    simp only [transmit_of_live hlive hopen, write, hstart, Timeline.before_quiet]
    rfl

theorem transmit_flush (h : Balanced c link) :
    c.transmit link .flush (fun _ => []) = c.flush link := by
  cases hlive : c.liveChannel with
  | error e =>
    have hstart : c.startFlush link = .error e := startSend_eq_error hlive link .flush
    simp only [transmit_of_not_live hlive, flush, hstart, settle]
  | ok channel =>
    have hopen := h.isOpen channel (liveChannel_eq_ok_iff.1 hlive).2
    have hstart : c.startFlush link = .ok (c.flight link.flushDelay) :=
      startSend_eq_ok hlive hopen link .flush
    simp only [transmit_of_live hlive hopen, flush, hstart, Timeline.before_quiet]
    rfl

theorem transmit_cases (h : c.liveChannel = .ok channel) (hopen : channel.isOpen = true)
    (link : Link) (message : Message) (timeline : Timeline) :
    let ms := min (link.delayOf message) c.deadline
    let after := link.changeAll (timeline.before ms)
    (c.deadline < link.delayOf message ∧ c.transmit link message timeline =
      ⟨.error (message.lateError c.deadline), (c.fault after).1, (c.fault after).2, ms⟩) ∨
    (link.delayOf message ≤ c.deadline ∧ ∃ e, after.faultOf message = some e ∧
      c.transmit link message timeline = ⟨.error e, (c.fault after).1, (c.fault after).2, ms⟩) ∨
    (link.delayOf message ≤ c.deadline ∧ after.faultOf message = none ∧
      c.transmit link message timeline = ⟨.ok (), c, after.receive channel message, ms⟩) := by
  intro ms after
  have htransmit : c.transmit link message timeline = _ := transmit_of_live h hopen message timeline
  by_cases hlate : c.deadline < link.delayOf message
  · rw [decide_eq_true hlate, finishSend_late] at htransmit
    exact .inl ⟨hlate, htransmit⟩
  · have hdelay := Nat.le_of_not_lt hlate
    rw [decide_eq_false hlate] at htransmit
    cases hfault : after.faultOf message with
    | some e =>
      rw [finishSend_fault h hfault] at htransmit
      exact .inr (.inl ⟨hdelay, e, rfl, htransmit⟩)
    | none =>
      rw [finishSend_ok h hfault] at htransmit
      exact .inr (.inr ⟨hdelay, rfl, htransmit⟩)

end Connection

/-- What sending a message over an open channel comes to: it is a use of the connection, it takes
its delay or the deadline, and its bytes arrive once if it gets through and never if it fails. -/
structure Timed (c : Connection) (link : Link) (channel : Channel) (message : Message)
    (timeline : Timeline) (deadline : Nat) (o : Connection.Outcome) : Prop where
  isUse : c.use link (.send message (timeline.before o.elapsed)) =
    (o.result, o.connection, o.link)
  elapsed : o.elapsed = min (link.delayOf message) deadline
  ok_iff : o.result = .ok () ↔ link.delayOf message ≤ deadline ∧
    (link.changeAll (timeline.before o.elapsed)).faultOf message = none
  late : deadline < link.delayOf message → o.result = .error (message.lateError deadline)
  injected : ∀ e, link.delayOf message ≤ deadline →
    (link.changeAll (timeline.before o.elapsed)).faultOf message = some e → o.result = .error e
  arrived : o.result = .ok () → o.connection = c ∧
    o.link.deliveries = link.deliveries ++ message.deliveries channel.number
  unrecorded : ∀ e, o.result = .error e → o.link.deliveries = link.deliveries

theorem Balanced.timed {c : Connection} {link : Link} {channel : Channel} (h : Balanced c link)
    (hlive : c.liveChannel = .ok channel) (message : Message) (timeline : Timeline) :
    Timed c link channel message timeline c.deadline (c.transmit link message timeline) := by
  have hopen := h.isOpen channel (Connection.liveChannel_eq_ok_iff.1 hlive).2
  have huse := Connection.use_send_eq_transmit h message timeline
  have hrecords := (link.changeAll_records
    (timeline.before (min (link.delayOf message) c.deadline))).2.2
  obtain ⟨hlate, ho⟩ | ⟨hdelay, e, hfault, ho⟩ | ⟨hdelay, hfault, ho⟩ :=
    Connection.transmit_cases hlive hopen link message timeline <;>
    rw [ho] at huse ⊢
  · exact {
      isUse := huse
      elapsed := rfl
      ok_iff := ⟨nofun, fun h => absurd h.1 (Nat.not_le_of_lt hlate)⟩
      late := fun _ => rfl
      injected := fun _ h => absurd h (Nat.not_le_of_lt hlate)
      arrived := nofun
      unrecorded := fun _ _ => (Connection.dropChannel_deliveries c _).trans hrecords }
  · exact {
      isUse := huse
      elapsed := rfl
      ok_iff := ⟨nofun, fun h => nomatch hfault.symm.trans h.2⟩
      late := fun h => absurd h (Nat.not_lt_of_le hdelay)
      injected := fun e' _ h => by rw [Option.some.inj (hfault.symm.trans h)]
      arrived := nofun
      unrecorded := fun _ _ => (Connection.dropChannel_deliveries c _).trans hrecords }
  · exact {
      isUse := huse
      elapsed := rfl
      ok_iff := ⟨fun _ => ⟨hdelay, hfault⟩, fun _ => rfl⟩
      late := fun h => absurd h (Nat.not_lt_of_le hdelay)
      injected := fun _ _ h => nomatch hfault.symm.trans h
      arrived := fun _ => ⟨rfl, by rw [Link.receive_deliveries, hrecords]⟩
      unrecorded := nofun }

/-! ### After an error -/

/-- What an error leaves: the connection is faulted, and its channel was disconnected. -/
structure Faulted (c : Connection) (link : Link) : Prop where
  state : c.state = .faulted
  channel : c.channel = none
  handles : link.openHandles = 0
  conserved : link.connects = link.disconnects

namespace Connection

variable {c : Connection} {link : Link} {u : Use} {e : ConnectionError}

theorem use_openTo (c : Connection) (link : Link) (target : Target) (changes : List LinkChange) :
    c.use link (.openTo target changes) = (c.startOpen link target).2.1.finishOpen
      ((c.startOpen link target).2.2.changeAll changes) (c.startOpen link target).1 := rfl

theorem use_openTo_of_fault (c : Connection) (link : Link) (target : Target)
    {changes : List LinkChange}
    (h : ((c.startOpen link target).2.2.changeAll changes).connectFault = some e) :
    c.use link (.openTo target changes) = (.error e,
      { (c.startOpen link target).2.1 with state := .faulted },
      { (c.startOpen link target).2.2.changeAll changes with connectFault := none }) := by
  rw [use_openTo, finishOpen_eq_error h]
  rfl

theorem use_openTo_of_no_fault (c : Connection) (link : Link) (target : Target)
    {changes : List LinkChange}
    (h : ((c.startOpen link target).2.2.changeAll changes).connectFault = none) :
    (c.use link (.openTo target changes)).1 = .ok () := by
  rw [use_openTo, finishOpen_eq_ok h]

theorem faulted_of_use (h : Balanced c link) (herror : (c.use link u).1 = .error e) :
    (c.use link u).2.1.state = .faulted ∧ (c.use link u).2.1.channel = none := by
  cases u with
  | openTo target changes =>
    cases hfault : ((c.startOpen link target).2.2.changeAll changes).connectFault with
    | none =>
      rw [use_openTo_of_no_fault c link target hfault] at herror
      cases herror
    | some e' =>
      rw [use_openTo_of_fault c link target hfault]
      exact ⟨rfl, rfl⟩
  | send message changes =>
    obtain ⟨e', -, huse⟩ | ⟨channel, -, ⟨e', huse⟩ | huse⟩ := use_send_cases h message changes
    · rw [huse]
      exact ⟨rfl, rfl⟩
    · rw [huse]
      exact ⟨rfl, rfl⟩
    · rw [huse] at herror
      cases herror
  | close => cases herror
  | change ch => cases herror

/-- Without a channel nothing arrives, and there is none after a use that opens none. -/
theorem use_without_channel (h : c.channel = none) (link : Link) (u : Use)
    (hopened : ∀ n, .opened n (.ok ()) ∉ c.signals link u) :
    (c.use link u).2.1.channel = none ∧ (c.use link u).2.2.deliveries = link.deliveries := by
  cases u with
  | openTo target changes =>
    cases hfault : ((c.startOpen link target).2.2.changeAll changes).connectFault with
    | none =>
      refine absurd ?_ (hopened (c.startOpen link target).1.number)
      simp only [signals, use_openTo_of_no_fault c link target hfault]
      exact List.mem_append_right _ List.mem_cons_self
    | some e =>
      rw [use_openTo_of_fault c link target hfault]
      exact ⟨rfl, (Link.changeAll_records _ changes).2.2.trans (dropChannel_deliveries c link)⟩
  | send message changes =>
    have hlive : ∃ e, c.liveChannel = .error e := by
      cases hlive : c.liveChannel with
      | error e => exact ⟨e, rfl⟩
      | ok channel => cases h.symm.trans (liveChannel_eq_ok_iff.1 hlive).2
    obtain ⟨e, he⟩ := hlive
    simp only [use, startSend_eq_error he, settle]
    exact ⟨rfl, dropChannel_deliveries c link⟩
  | close => exact ⟨rfl, dropChannel_deliveries c link⟩
  | change ch => exact ⟨h, Link.change_deliveries link ch⟩

theorem useAll_without_channel (h : c.channel = none) (uses : List Use)
    (hopened : ∀ n, .opened n (.ok ()) ∉ c.log link uses) :
    (c.useAll link uses).1.channel = none ∧
      (c.useAll link uses).2.deliveries = link.deliveries := by
  induction uses generalizing c link with
  | nil => exact ⟨h, rfl⟩
  | cons u uses ih =>
    obtain ⟨hchannel, hdeliveries⟩ := use_without_channel h link u fun n hmem =>
      hopened n (List.mem_append_left _ hmem)
    obtain ⟨hchannel', hdeliveries'⟩ := ih hchannel fun n hmem =>
      hopened n (List.mem_append_right _ hmem)
    exact ⟨hchannel', hdeliveries'.trans hdeliveries⟩

/-- Without a channel `transmit` fails at once, and the link does not notice. -/
theorem transmit_without_channel (h : Balanced c link) (hchannel : c.channel = none)
    (message : Message) (timeline : Timeline) :
    c.transmit link message timeline = ⟨.error (.unavailable s!"connection is {c.state.name}"),
      { c with state := .faulted }, link, 0⟩ := by
  have hstate : c.state ≠ .connected := fun hstate => by
    have hsome := h.connected.1 hstate
    rw [hchannel] at hsome
    cases hsome
  have hlive : c.liveChannel = .error (.unavailable s!"connection is {c.state.name}") := by
    rw [liveChannel, if_neg hstate]
  have hfault : c.fault link = ({ c with state := .faulted }, link) := by
    rw [fault, dropChannel, hchannel]
  rw [transmit_of_not_live hlive, hfault]

theorem use_deadline (h : Balanced c link) (u : Use) :
    (c.use link u).2.1.deadline = c.deadline := by
  cases u with
  | openTo target changes =>
    rw [use_openTo]
    unfold finishOpen
    split <;> rfl
  | send message changes =>
    obtain ⟨e', -, huse⟩ | ⟨channel, -, ⟨e', huse⟩ | huse⟩ := use_send_cases h message changes <;>
      rw [huse] <;> rfl
  | close => rfl
  | change ch => rfl

theorem useAll_deadline {log : List Signal} (h : Accounted c link log) (uses : List Use) :
    (c.useAll link uses).1.deadline = c.deadline := by
  induction uses generalizing c link log with
  | nil => rfl
  | cons u uses ih => exact (ih (h.use u)).trans (use_deadline h.balanced u)

end Connection

/-- After `uses` in any order, over a link that fails and delays what it likes, a message over an
open channel is `Timed` by the deadline; with no changes on the way it is `write` or `flush`. After
an error the connection is `Faulted` and leaves no handle open; until a channel connects again
nothing arrives, and every message fails at once. -/
theorem timed_of_uses (deadline : Nat) (uses : List Use) :
    let c := (Connection.useAll { deadline } {} uses).1
    let link := (Connection.useAll { deadline } {} uses).2
    (∀ bytes, c.transmit link (.write bytes) (fun _ => []) = c.write link bytes) ∧
    c.transmit link .flush (fun _ => []) = c.flush link ∧
    (c.state = .connected → ∃ channel, c.channel = some channel ∧ ∀ message timeline,
      Timed c link channel message timeline deadline (c.transmit link message timeline)) ∧
    ∀ u e, (c.use link u).1 = .error e →
      Faulted (c.use link u).2.1 (c.use link u).2.2 ∧
      ∀ more, (∀ n, .opened n (.ok ()) ∉ (c.use link u).2.1.log (c.use link u).2.2 more) →
        let d := ((c.use link u).2.1.useAll (c.use link u).2.2 more).1
        let after := ((c.use link u).2.1.useAll (c.use link u).2.2 more).2
        after.deliveries = (c.use link u).2.2.deliveries ∧ ∀ message timeline,
          d.transmit after message timeline =
            ⟨.error (.unavailable s!"connection is {d.state.name}"),
              { d with state := .faulted }, after, 0⟩ := by
  intro c link
  have haccounted : Accounted c link (Connection.log { deadline } {} uses) :=
    (accounted_start deadline).useAll uses
  have hdeadline : c.deadline = deadline :=
    Connection.useAll_deadline (accounted_start deadline) uses
  have hbalanced := haccounted.balanced
  refine ⟨Connection.transmit_write hbalanced, Connection.transmit_flush hbalanced,
    fun hstate => ?_, fun u e herror => ?_⟩
  · obtain ⟨channel, hchannel⟩ := Option.isSome_iff_exists.1 (hbalanced.connected.1 hstate)
    have hlive := Connection.liveChannel_eq_ok_iff.2 ⟨hstate, hchannel⟩
    refine ⟨channel, hchannel, fun message timeline => ?_⟩
    rw [← hdeadline]
    exact hbalanced.timed hlive message timeline
  · have hused := haccounted.use u
    obtain ⟨hstate, hchannel⟩ := Connection.faulted_of_use hbalanced herror
    have hhandles : (c.use link u).2.2.openHandles = 0 := by
      rw [hused.balanced.handles, hchannel]
      rfl
    refine ⟨⟨hstate, hchannel, hhandles, ?_⟩, fun more hopened => ?_⟩
    · rw [hused.balanced.conserved, hhandles]
      rfl
    · obtain ⟨hnone, hdeliveries⟩ := Connection.useAll_without_channel hchannel more hopened
      exact ⟨hdeliveries, Connection.transmit_without_channel (hused.useAll more).balanced hnone⟩

end ReceiptPrinter

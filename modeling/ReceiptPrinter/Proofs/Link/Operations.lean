import ReceiptPrinter.Link.Connection
import ReceiptPrinter.Proofs.Except

/-!
# Operations of a connection

What the ends of connects, writes and flushes come to, and what they leave of the link.
-/

namespace ReceiptPrinter

/-! ### What operations leave of a link -/

namespace Link

variable (link : Link)

@[simp] theorem disconnect_deliveries (channel : Channel) :
    (link.disconnect channel).2.deliveries = link.deliveries := by
  unfold disconnect
  split <;> rfl

@[simp] theorem disconnect_targets (channel : Channel) :
    (link.disconnect channel).2.targets = link.targets := by
  unfold disconnect
  split <;> rfl

@[simp] theorem finishConnect_deliveries (channel : Channel) :
    (link.finishConnect channel).2.2.deliveries = link.deliveries := by
  unfold finishConnect
  split <;> rfl

@[simp] theorem finishConnect_targets (channel : Channel) :
    (link.finishConnect channel).2.2.targets = link.targets := by
  unfold finishConnect
  split <;> rfl

@[simp] theorem finishConnect_disconnects (channel : Channel) :
    (link.finishConnect channel).2.2.disconnects = link.disconnects := by
  unfold finishConnect
  split <;> rfl

@[simp] theorem change_deliveries (c : LinkChange) : (link.change c).deliveries = link.deliveries :=
  by cases c <;> rfl

@[simp] theorem change_targets (c : LinkChange) : (link.change c).targets = link.targets := by
  cases c <;> rfl

end Link

namespace Connection

variable (c : Connection) (link : Link)

@[simp] theorem dropChannel_deliveries : (c.dropChannel link).deliveries = link.deliveries := by
  unfold dropChannel
  split <;> simp

@[simp] theorem dropChannel_targets : (c.dropChannel link).targets = link.targets := by
  unfold dropChannel
  split <;> simp

end Connection

/-! ### Ends of operations of a connection -/

namespace Link

def deliver (link : Link) (channel : Channel) (bytes : List UInt8) : Link :=
  { link with deliveries := link.deliveries ++ [⟨channel.number, bytes⟩] }

theorem finishWrite_eq_ok {link : Link} (h : link.writeFault = none) (channel : Channel)
    (bytes : List UInt8) :
    link.finishWrite channel bytes = (.ok (), link.deliver channel bytes) := by
  unfold finishWrite
  split
  · next e he =>
    rw [h] at he
    cases he
  · rfl

theorem finishConnect_eq_ok {link : Link} (h : link.connectFault = none) (channel : Channel) :
    link.finishConnect channel =
      (.ok (), { channel with isOpen := true }, (link.finishConnect channel).2.2) := by
  unfold finishConnect
  split
  · next e he =>
    rw [h] at he
    cases he
  · rfl

theorem finishConnect_eq_error {link : Link} {e : ConnectionError} (h : link.connectFault = some e)
    (channel : Channel) :
    link.finishConnect channel = (.error e, channel, { link with connectFault := none }) := by
  rw [finishConnect, h]

end Link

namespace Connection

variable {c : Connection} {link : Link}

/-- `finishWrite` ends with an error, which faults the connection, or its bytes arrive. -/
theorem finishWrite_cases (c : Connection) (link : Link) (bytes : List UInt8) (late : Bool) :
    (∃ e, c.finishWrite link bytes late = (.error e, c.fault link)) ∨
    ∃ channel, late = false ∧ c.liveChannel = .ok channel ∧ link.writeFault = none ∧
      c.finishWrite link bytes late = (.ok (), c, link.deliver channel bytes) := by
  unfold finishWrite
  cases late with
  | true => exact .inl ⟨_, rfl⟩
  | false =>
    cases hlive : c.liveChannel with
    | error e => exact .inl ⟨e, rfl⟩
    | ok channel =>
      cases hfault : link.writeFault with
      | some e =>
        refine .inl ⟨e, ?_⟩
        simp only [Link.finishWrite, hfault]
        rfl
      | none =>
        refine .inr ⟨channel, rfl, rfl, rfl, ?_⟩
        simp only [Link.finishWrite_eq_ok hfault]
        rfl

theorem finishOpen_eq_ok (h : link.connectFault = none) (channel : Channel) :
    c.finishOpen link channel =
      (.ok (), { c with channel := some { channel with isOpen := true }, state := .connected },
        (link.finishConnect channel).2.2) := by
  rw [finishOpen, Link.finishConnect_eq_ok h]

theorem finishOpen_eq_error {e : ConnectionError} (h : link.connectFault = some e)
    (channel : Channel) :
    c.finishOpen link channel = (.error e, { c with state := .faulted },
      ({ link with connectFault := none }.disconnect channel).2) := by
  rw [finishOpen, Link.finishConnect_eq_error h]

theorem finishFlush_cases (c : Connection) (link : Link) (late : Bool) :
    (∃ e, c.finishFlush link late = (.error e, c.fault link)) ∨
    (late = false ∧ link.flushFault = none ∧ c.finishFlush link late = (.ok (), c, link)) := by
  unfold finishFlush
  cases late with
  | true => exact .inl ⟨_, rfl⟩
  | false =>
    cases hfault : link.flushFault with
    | some e =>
      refine .inl ⟨e, ?_⟩
      simp only [Link.finishFlush, hfault]
      rfl
    | none =>
      refine .inr ⟨rfl, rfl, ?_⟩
      simp only [Link.finishFlush, hfault]
      rfl

theorem liveChannel_eq_ok_iff {c : Connection} {channel : Channel} :
    c.liveChannel = .ok channel ↔ c.state = .connected ∧ c.channel = some channel := by
  unfold liveChannel
  by_cases hstate : c.state = .connected
  · cases hchannel : c.channel <;> simp [hstate]
  · simp [hstate]

end Connection

end ReceiptPrinter

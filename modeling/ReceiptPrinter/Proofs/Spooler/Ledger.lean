import Mathlib.Data.List.Basic
import ReceiptPrinter.Proofs.Spooler.Coherent

/-!
# The ledger of a run

`Ledger` relates the writes of a run to its jobs. Jobs are taken from the queue in the order in
which they were accepted; those that are still queued have no outcome and nothing is written for
them, those that are done have an outcome that fits their writes, and the one that is printed has
been written up to the segments that are left. The lemmas here say how the ledger goes on when a job
is accepted, taken, refused, written or ended.
-/

namespace ReceiptPrinter

/-! ### What a job prints -/

/-- The bytes after the elements of a job: `ESC p 0 25 250` kicks the drawer, then `GS V 65 0` cuts
the paper through, or `GS V 66 0` up to a bridge. -/
def Config.closingBytes (config : Config) : List UInt8 :=
  let kick := if config.openDrawer then [0x1B, 0x70, 0x00, 0x19, 0xFA] else []
  match config.cut with
  | .full => kick ++ [0x1D, 0x56, 0x41, 0x00]
  | .bridge => kick ++ [0x1D, 0x56, 0x42, 0x00]
  | .none => kick

theorem Receipt.stream_epilogue (config : Config) :
    Command.stream (epilogue config) = config.closingBytes := by
  unfold epilogue Config.closingBytes
  cases config.openDrawer <;> cases config.cut <;> rfl

/-- The segments of a body under `config`: its raw bytes, or the segments of its elements and then
`Config.closingBytes`, unless they are empty. -/
def JobBody.Prints (config : Config) (segments : List (List UInt8)) : JobBody → Prop
  | .raw bytes => segments = [bytes]
  | .elements es feed => ∃ encoded,
      (match feed with
        | some lines => Receipt.encodeWithFeed config lines es
        | none => Receipt.encode config es) = .ok encoded ∧
      segments = encoded ++ [config.closingBytes].filter fun bytes => !bytes.isEmpty

theorem Job.segments_eq_ok_iff {j : Job} {segments : List (List UInt8)} :
    j.segments = .ok segments ↔ j.body.Prints j.config segments := by
  unfold Job.segments
  cases j.body with
  | raw bytes => simp [bodySegments, JobBody.Prints, eq_comm]
  | elements es feed =>
    have hencode : Receipt.encodeWithFeed j.config (feed.getD j.config.feedLines) es =
        match feed with
        | some lines => Receipt.encodeWithFeed j.config lines es
        | none => Receipt.encode j.config es := by
      cases feed <;> rfl
    have hlast : ∀ encoded : List (List UInt8),
        (if j.config.closingBytes.isEmpty then encoded
          else encoded ++ [j.config.closingBytes]) =
        encoded ++ [j.config.closingBytes].filter (!·.isEmpty) := by
      intro encoded
      by_cases hempty : j.config.closingBytes.isEmpty = true
      · simp [hempty]
      · simp [hempty]
    simp only [bodySegments, JobBody.Prints, hencode, bind_eq_ok_iff, Receipt.stream_epilogue]
    constructor
    · rintro ⟨encoded, hencoded, hsegments⟩
      cases hsegments
      exact ⟨encoded, hencoded, hlast encoded⟩
    · rintro ⟨encoded, hencoded, rfl⟩
      exact ⟨encoded, hencoded, congrArg Except.ok (hlast encoded)⟩

/-- What is settled about a job: its order and its outcome. -/
structure Standing where
  order : JobBody × Config
  outcome : Option PrintResult

def Job.standing (j : Job) : Standing := ⟨j.order, j.outcome⟩

def Request.job? : Request → Option Nat
  | .print job => some job
  | _ => none

/-- The job that the worker prints and the segments that are left of it. -/
def Activity.progress? : Activity → Option (Nat × List (List UInt8))
  | .writing job segment rest _ _ => some (job, segment :: rest)
  | .flushing job _ _ | .draining job _ => some (job, [])
  | .waiting | .opening .. | .stopped => none

namespace Spooler

def writesOf (log : List Write) (job : Nat) : List Write := log.filter fun w => w.job == job

def bytesOf (writes : List Write) : List (List UInt8) := writes.map fun w => w.delivery.bytes

def Write.Over (w : Write) (channel : Channel) : Prop :=
  w.channel = some channel ∧ w.delivery.channel = channel.number

end Spooler

/-- Whether `writes` fit the outcome of a job. After success they are all its segments, over one
open channel; after a fault of the connection the first ones; after any other error there are none.
Before the end they are none or the first segments. -/
def Standing.Wrote (r : Standing) (writes : List Spooler.Write) : Prop :=
  match r.outcome with
  | some (.ok ()) => ∃ channel : Channel, channel.isOpen = true ∧ (∀ w ∈ writes, w.Over channel) ∧
      r.order.1.Prints r.order.2 (Spooler.bytesOf writes)
  | some (.error (.connection _)) => ∃ segments, r.order.1.Prints r.order.2 segments ∧
      Spooler.bytesOf writes <+: segments
  | some (.error _) => writes = []
  | none => writes = [] ∨ ∃ segments, r.order.1.Prints r.order.2 segments ∧
      Spooler.bytesOf writes <+: segments

namespace Spooler

variable {s s' : Spooler} {log : List Write} {taken : Nat}

/-! ### Writes in order -/

theorem mem_writesOf {w : Write} {job : Nat} : w ∈ writesOf log job ↔ w ∈ log ∧ w.job = job := by
  simp [writesOf]

theorem writesOf_eq_nil {job : Nat} (h : ∀ w ∈ log, w.job < job) : writesOf log job = [] := by
  rw [writesOf, List.filter_eq_nil_iff]
  intro w hw heq
  have hlt := h w hw
  have hjob : w.job = job := beq_iff_eq.1 heq
  omega

theorem writesOf_concat_self (log : List Write) (w : Write) :
    writesOf (log ++ [w]) w.job = writesOf log w.job ++ [w] := by
  simp [writesOf]

theorem writesOf_concat_other {w : Write} {job : Nat} (h : w.job ≠ job) :
    writesOf (log ++ [w]) job = writesOf log job := by
  simp [writesOf, h]

/-- Whether `log` holds writes of the first jobs only, job by job. -/
def Ordered (log : List Write) (jobs : Nat) : Prop :=
  (∀ w ∈ log, w.job < jobs) ∧ log = (List.range jobs).flatMap (writesOf log)

theorem Ordered.mono {n m : Nat} (h : Ordered log n) (hle : n ≤ m) : Ordered log m := by
  obtain ⟨hlt, hlog⟩ := h
  induction hle with
  | refl => exact ⟨hlt, hlog⟩
  | step hle ih =>
    obtain ⟨hlt', hlog'⟩ := ih
    refine ⟨fun w hw => Nat.lt_succ_of_lt (hlt' w hw), ?_⟩
    rw [List.range_succ, List.flatMap_append, ← hlog', List.flatMap_singleton,
      writesOf_eq_nil hlt', List.append_nil]

theorem Ordered.concat {w : Write} (h : Ordered log (w.job + 1)) :
    Ordered (log ++ [w]) (w.job + 1) := by
  obtain ⟨hlt, hlog⟩ := h
  constructor
  · intro v hv
    rcases List.mem_append.1 hv with hv | hv
    · exact hlt v hv
    · rw [List.mem_singleton.1 hv]
      exact Nat.lt_succ_self _
  · have hothers : (List.range w.job).flatMap (writesOf (log ++ [w])) =
        (List.range w.job).flatMap (writesOf log) := by
      refine List.flatMap_congr fun i hi => writesOf_concat_other ?_
      have hlt := List.mem_range.1 hi
      omega
    rw [List.range_succ, List.flatMap_append, List.flatMap_singleton] at hlog ⊢
    rw [hothers, writesOf_concat_self, ← List.append_assoc, ← hlog]

/-! ### Standings -/

def standings (s : Spooler) : List Standing := s.jobs.map Job.standing

theorem standings_length (s : Spooler) : s.standings.length = s.jobs.length := List.length_map _

/-- Standings after a job has got its outcome. -/
def conclude (rs : List Standing) (job : Nat) (result : PrintResult) : List Standing :=
  rs.modify job fun r => { r with outcome := some result }

theorem map_standing_outcomes (jobs : List Job) (job : Nat) (result : PrintResult) :
    (outcomes jobs job result).map Job.standing =
      conclude (jobs.map Job.standing) job result := by
  refine List.ext_getElem? fun i => ?_
  rw [conclude, outcomes, List.getElem?_map, List.getElem?_modify, List.getElem?_modify,
    List.getElem?_map]
  cases jobs[i]? with
  | none => rfl
  | some j => by_cases hi : job = i <;> simp [hi, Job.standing, Job.order]

theorem map_standing_modify (jobs : List Job) (i : Nat) {f : Job → Job}
    (hf : ∀ j, (f j).standing = j.standing) :
    (jobs.modify i f).map Job.standing = jobs.map Job.standing := by
  refine List.ext_getElem? fun k => ?_
  rw [List.getElem?_map, List.getElem?_map, List.getElem?_modify]
  cases jobs[k]? with
  | none => rfl
  | some j => by_cases hk : i = k <;> simp [hk, hf]

theorem standing_cancel (j : Job) : j.cancel.2.standing = j.standing := by
  unfold Job.cancel
  split <;> rfl

theorem getElem?_conclude_self {rs : List Standing} {job : Nat} {r : Standing}
    {result : PrintResult} (h : (conclude rs job result)[job]? = some r) :
    ∃ r', rs[job]? = some r' ∧ r = ⟨r'.order, some result⟩ := by
  rw [conclude, List.getElem?_modify] at h
  obtain ⟨r', hr', rfl⟩ := Option.map_eq_some_iff.1 h
  exact ⟨r', hr', if_pos rfl⟩

theorem getElem?_conclude_other {rs : List Standing} {job i : Nat} {result : PrintResult}
    (h : job ≠ i) : (conclude rs job result)[i]? = rs[i]? := by
  rw [conclude, List.getElem?_modify]
  simp [h]

theorem length_conclude (rs : List Standing) (job : Nat) (result : PrintResult) :
    (conclude rs job result).length = rs.length := List.length_modify _ _ _

def abandoned (rs : List Standing) (jobs : List Nat) : List Standing :=
  jobs.foldl (fun rs job => conclude rs job (.error .closed)) rs

theorem map_standing_abandonedJobs (queue : List Request) (jobs : List Job) :
    (abandonedJobs queue jobs).map Job.standing =
      abandoned (jobs.map Job.standing) (queue.filterMap Request.job?) := by
  induction queue generalizing jobs with
  | nil => rfl
  | cons request queue ih =>
    cases request with
    | print job =>
      have hhead := map_standing_outcomes jobs job (.error .closed)
      exact (ih _).trans (congrArg (abandoned · (queue.filterMap Request.job?)) hhead)
    | configure => exact ih jobs
    | connect => exact ih jobs
    | disconnect => exact ih jobs

theorem length_abandoned (rs : List Standing) (jobs : List Nat) :
    (abandoned rs jobs).length = rs.length := by
  induction jobs generalizing rs with
  | nil => rfl
  | cons job jobs ih => exact (ih _).trans (length_conclude rs job _)

theorem getElem?_abandoned_other {rs : List Standing} {jobs : List Nat} {job : Nat}
    (h : job ∉ jobs) : (abandoned rs jobs)[job]? = rs[job]? := by
  induction jobs generalizing rs with
  | nil => rfl
  | cons first jobs ih =>
    obtain ⟨hne, hrest⟩ := not_or.1 (mt List.mem_cons.2 h)
    exact (ih hrest).trans (getElem?_conclude_other (Ne.symm hne))

theorem outcome_abandoned {rs : List Standing} {jobs : List Nat} {job : Nat} {r : Standing}
    (hjob : job ∈ jobs) (h : (abandoned rs jobs)[job]? = some r) :
    r.outcome = some (.error .closed) := by
  induction jobs generalizing rs with
  | nil => cases hjob
  | cons first jobs ih =>
    by_cases hlater : job ∈ jobs
    · exact ih hlater h
    · have hfirst : job = first := (List.mem_cons.1 hjob).resolve_right hlater
      subst hfirst
      have hlast : (abandoned (conclude rs job (.error .closed)) jobs)[job]? = some r := h
      rw [getElem?_abandoned_other hlater] at hlast
      obtain ⟨r', -, rfl⟩ := getElem?_conclude_self hlast
      rfl

/-! ### The ledger -/

/-- How writes stand to jobs, of which the first `taken` were taken from the queue; `active` is the
job that is printed and the segments that are left of it. -/
structure Ledger (s : Spooler) (log : List Write) (taken : Nat)
    (active : Option (Nat × List (List UInt8))) : Prop where
  le_length : taken ≤ s.standings.length
  queued : s.queue.filterMap Request.job? = List.range' taken (s.standings.length - taken)
  waiting : ∀ i r, taken ≤ i → s.standings[i]? = some r → r.outcome = none
  ordered : Ordered log taken
  settled : ∀ i r, i < taken → (∀ left, active ≠ some (i, left)) → s.standings[i]? = some r →
    r.Wrote (writesOf log i)
  printing : ∀ job left, active = some (job, left) → job + 1 = taken ∧ ∃ order,
    s.standings[job]? = some ⟨order, none⟩ ∧
    order.1.Prints order.2 (bytesOf (writesOf log job) ++ left) ∧
    ∀ channel, s.connection.channel = some channel → ∀ w ∈ writesOf log job, w.Over channel

section
variable {active : Option (Nat × List (List UInt8))}

/-- `Ledger` stays with the requests for jobs, the standings and the channel. -/
theorem Ledger.of_eq (h : Ledger s log taken active)
    (hqueue : s'.queue.filterMap Request.job? = s.queue.filterMap Request.job?)
    (hstandings : s'.standings = s.standings)
    (hchannel : active = none ∨ s'.connection.channel = s.connection.channel) :
    Ledger s' log taken active where
  le_length := hstandings ▸ h.le_length
  queued := by rw [hqueue, hstandings, h.queued]
  waiting := hstandings ▸ h.waiting
  ordered := h.ordered
  settled := hstandings ▸ h.settled
  printing := by
    rintro job left rfl
    obtain ⟨htaken, order, hjob, hprints, hwrites⟩ := h.printing job left rfl
    obtain hnone | hchannel := hchannel
    · cases hnone
    · exact ⟨htaken, order, hstandings ▸ hjob, hprints, hchannel ▸ hwrites⟩

theorem Ledger.accept (h : Ledger s log taken active) (order : JobBody × Config)
    (hqueue : s'.queue = s.queue ++ [.print s.standings.length])
    (hstandings : s'.standings = s.standings ++ [⟨order, none⟩])
    (hchannel : s'.connection = s.connection) : Ledger s' log taken active where
  le_length := by
    rw [hstandings, List.length_append]
    exact Nat.le_add_right_of_le h.le_length
  queued := by
    have hle := h.le_length
    have hmore : s.standings.length + 1 - taken = (s.standings.length - taken) + 1 := by omega
    have hlast : taken + (s.standings.length - taken) = s.standings.length := by omega
    rw [hqueue, hstandings, List.filterMap_append, h.queued, List.length_append,
      List.length_singleton, hmore, List.range'_1_concat, hlast]
    rfl
  waiting := by
    intro i r hi hr
    rw [hstandings] at hr
    by_cases hlt : i < s.standings.length
    · rw [List.getElem?_append_left hlt] at hr
      exact h.waiting i r hi hr
    · rw [List.getElem?_append_right (by omega)] at hr
      rw [List.mem_singleton.1 (List.mem_of_getElem? hr)]
  ordered := h.ordered
  settled := by
    intro i r hi hactive hr
    have hle := h.le_length
    rw [hstandings, List.getElem?_append_left (by omega)] at hr
    exact h.settled i r hi hactive hr
  printing := by
    intro job left hactive
    obtain ⟨htaken, order', hjob, hprints, hwrites⟩ := h.printing job left hactive
    have hlt := (List.getElem?_eq_some_iff.1 hjob).1
    refine ⟨htaken, order', ?_, hprints, hchannel ▸ hwrites⟩
    rw [hstandings, List.getElem?_append_left hlt, hjob]

/-- The next request for a job is for the first one not taken. -/
theorem Ledger.next (h : Ledger s log taken active) {job : Nat} {queue : List Request}
    (hqueue : s.queue = .print job :: queue) :
    job = taken ∧ taken < s.standings.length ∧
      queue.filterMap Request.job? = List.range' (taken + 1) (s.standings.length - (taken + 1)) := by
  have hqueued := h.queued
  have hle := h.le_length
  have hhead : Request.job? (.print job) = some job := rfl
  rw [hqueue, List.filterMap_cons_some hhead] at hqueued
  obtain ⟨n, hn⟩ : ∃ n, s.standings.length - taken = n + 1 := by
    refine Nat.exists_eq_succ_of_ne_zero fun hzero => ?_
    rw [hzero] at hqueued
    cases hqueued
  rw [hn, List.range'_succ, List.cons.injEq] at hqueued
  obtain ⟨rfl, hrest⟩ := hqueued
  have hmore : s.standings.length - (job + 1) = n := by omega
  exact ⟨rfl, by omega, by rw [hrest, hmore]⟩

theorem Ledger.refuse (h : Ledger s log taken none) {job : Nat} {queue : List Request}
    {e : PrintError} (he : ∀ fault, e ≠ .connection fault)
    (hqueue : s.queue = .print job :: queue) (hqueue' : s'.queue = queue)
    (hstandings : s'.standings = conclude s.standings job (.error e)) :
    Ledger s' log (taken + 1) none := by
  obtain ⟨rfl, hlt, hrest⟩ := h.next hqueue
  have hwrites : writesOf log job = [] := writesOf_eq_nil h.ordered.1
  refine ⟨?_, ?_, ?_, h.ordered.mono (Nat.le_succ job), ?_, by simp⟩
  · rw [hstandings, length_conclude]
    exact hlt
  · rw [hqueue', hrest, hstandings, length_conclude]
  · intro i r hi hr
    rw [hstandings, getElem?_conclude_other (by omega)] at hr
    exact h.waiting i r (by omega) hr
  · intro i r hi hactive hr
    rw [hstandings] at hr
    by_cases hjob : job = i
    · subst hjob
      obtain ⟨r', -, rfl⟩ := getElem?_conclude_self hr
      rw [hwrites]
      cases e with
      | connection fault => exact absurd rfl (he fault)
      | _ => rfl
    · rw [getElem?_conclude_other hjob] at hr
      exact h.settled i r (by omega) (by simp) hr

theorem Ledger.begin (h : Ledger s log taken none) {job : Nat} {j : Job} {queue : List Request}
    {segments : List (List UInt8)} (hqueue : s.queue = .print job :: queue)
    (hjob : s.jobs[job]? = some j) (hsegments : j.segments = .ok segments)
    (hqueue' : s'.queue = queue) (hstandings : s'.standings = s.standings) :
    Ledger s' log (taken + 1) (some (job, segments)) := by
  obtain ⟨rfl, hlt, hrest⟩ := h.next hqueue
  have hwrites : writesOf log job = [] := writesOf_eq_nil h.ordered.1
  have hstanding : s.standings[job]? = some j.standing := by
    rw [standings, List.getElem?_map, hjob, Option.map_some]
  refine ⟨hstandings ▸ hlt, ?_, ?_, h.ordered.mono (Nat.le_succ job), ?_, ?_⟩
  · rw [hqueue', hrest, hstandings]
  · intro i r hi hr
    rw [hstandings] at hr
    exact h.waiting i r (by omega) hr
  · intro i r hi hactive hr
    rw [hstandings] at hr
    have hne : i ≠ job := fun heq => hactive segments (by rw [heq])
    exact h.settled i r (by omega) (by simp) hr
  · intro i left heq
    cases heq
    have hnone : j.outcome = none := h.waiting job j.standing (Nat.le_refl _) hstanding
    refine ⟨rfl, j.order, ?_, ?_, by simp [hwrites]⟩
    · rw [hstandings, hstanding, Job.standing, hnone]
    · rw [hwrites]
      exact Job.segments_eq_ok_iff.1 hsegments

theorem Ledger.write {job : Nat} {segment : List UInt8} {rest : List (List UInt8)}
    (h : Ledger s log taken (some (job, segment :: rest))) {channel : Channel}
    (hchannel : s.connection.channel = some channel) (hqueue : s'.queue = s.queue)
    (hstandings : s'.standings = s.standings) (hconnection : s'.connection = s.connection) :
    Ledger s' (log ++ [⟨job, some channel, ⟨channel.number, segment⟩⟩]) taken
      (some (job, rest)) := by
  obtain ⟨rfl, order, hjob, hprints, hwrites⟩ := h.printing job _ rfl
  refine ⟨hstandings ▸ h.le_length, ?_, hstandings ▸ h.waiting, ?_, ?_, ?_⟩
  · rw [hqueue, hstandings, h.queued]
  · exact Ordered.concat (w := ⟨job, some channel, ⟨channel.number, segment⟩⟩) h.ordered
  · intro i r hi hactive hr
    have hne : job ≠ i := fun heq => hactive rest (by rw [heq])
    rw [writesOf_concat_other hne]
    refine h.settled i r hi (fun left heq => ?_) (hstandings ▸ hr)
    cases heq
    exact hne rfl
  · intro i left heq
    cases heq
    refine ⟨rfl, order, hstandings ▸ hjob, ?_, ?_⟩
    · have hself := writesOf_concat_self log ⟨job, some channel, ⟨channel.number, segment⟩⟩
      simp only at hself
      rw [hself]
      simpa [bytesOf] using hprints
    · intro c hc w hw
      rw [hconnection, hchannel] at hc
      cases hc
      obtain ⟨hw, hwjob⟩ := mem_writesOf.1 hw
      rcases List.mem_append.1 hw with hw | hw
      · exact hwrites channel hchannel w (mem_writesOf.2 ⟨hw, hwjob⟩)
      · rw [List.mem_singleton.1 hw]
        exact ⟨rfl, rfl⟩

theorem Ledger.end {job : Nat} {left : List (List UInt8)}
    (h : Ledger s log taken (some (job, left))) (result : PrintResult)
    (hqueue : s'.queue = s.queue) (hstandings : s'.standings = conclude s.standings job result)
    (hwrote : ∀ order, order.1.Prints order.2 (bytesOf (writesOf log job) ++ left) →
      (∀ channel, s.connection.channel = some channel →
        ∀ w ∈ writesOf log job, w.Over channel) →
      Standing.Wrote ⟨order, some result⟩ (writesOf log job)) :
    Ledger s' log taken none := by
  obtain ⟨rfl, order, hjob, hprints, hwrites⟩ := h.printing job _ rfl
  refine ⟨?_, ?_, ?_, h.ordered, ?_, by simp⟩
  · rw [hstandings, length_conclude]
    exact h.le_length
  · rw [hqueue, hstandings, length_conclude, h.queued]
  · intro i r hi hr
    rw [hstandings, getElem?_conclude_other (by omega)] at hr
    exact h.waiting i r hi hr
  · intro i r hi hactive hr
    rw [hstandings] at hr
    by_cases heq : job = i
    · subst heq
      obtain ⟨r', hr', rfl⟩ := getElem?_conclude_self hr
      rw [hjob] at hr'
      cases hr'
      exact hwrote order hprints hwrites
    · rw [getElem?_conclude_other heq] at hr
      refine h.settled i r hi (fun left heq' => ?_) hr
      cases heq'
      exact heq rfl

theorem Ledger.abandon (h : Ledger s log taken none) (hqueue : s'.queue = [])
    (hstandings : s'.standings = abandoned s.standings (s.queue.filterMap Request.job?)) :
    Ledger s' log s.standings.length none := by
  have hle := h.le_length
  have hlength : s'.standings.length = s.standings.length := by
    rw [hstandings, length_abandoned]
  refine ⟨Nat.le_of_eq hlength.symm, ?_, ?_, h.ordered.mono hle, ?_, by simp⟩
  · rw [hqueue, hlength, Nat.sub_self]
    rfl
  · intro i r hi hr
    have hlt := (List.getElem?_eq_some_iff.1 hr).1
    omega
  · intro i r hi hactive hr
    rw [hstandings, h.queued] at hr
    by_cases htaken : i < taken
    · have hother : i ∉ List.range' taken (s.standings.length - taken) := by
        rw [List.mem_range'_1]
        omega
      rw [getElem?_abandoned_other hother] at hr
      exact h.settled i r htaken (by simp) hr
    · have hmem : i ∈ List.range' taken (s.standings.length - taken) := by
        rw [List.mem_range'_1]
        omega
      have houtcome := outcome_abandoned hmem hr
      have hwrites : writesOf log i = [] :=
        writesOf_eq_nil fun w hw => Nat.lt_of_lt_of_le (h.ordered.1 w hw) (Nat.not_lt.1 htaken)
      rw [Standing.Wrote, houtcome]
      exact hwrites

end

end Spooler

end ReceiptPrinter

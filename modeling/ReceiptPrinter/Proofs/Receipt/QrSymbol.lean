import ReceiptPrinter.Receipt.QrSymbol

/-!
# How much a QR symbol holds

`cut` loses no byte of a content, and every segment takes at least three bits for each of its bytes,
however segments are joined. So a content that has a symbol (`modules?`) is short.
-/

namespace ReceiptPrinter.QrSymbol

/-! ### Segments hold all bytes -/

theorem of_ne_end (b : UInt8) : ByteClass.of b ≠ .end := by
  unfold ByteClass.of
  simp only
  repeat' split
  all_goals simp

theorem select_ne_start {next : ByteClass} (h : next ≠ .end) : select next ≠ .start := by
  cases next <;> first | exact absurd rfl h | simp [select]

/-- Only the end of the content leads back to the start. -/
theorem step_ne_start (state : State) {next : ByteClass} (h : next ≠ .end) :
    (step state next).2 ≠ .start := by
  have hselect := select_ne_start h
  cases state with
  | lead => cases next <;> simp_all [step]
  | narrowLead => cases next <;> simp_all [step]
  | kanji => cases next <;> simp_all [step]
  | _ => exact hselect

theorem step_start (next : ByteClass) : (step .start next).1 = .none := rfl

theorem step_end {state : State} (h : state ≠ .start) : (step state .end).1 ≠ .none := by
  cases state <;> first | exact absurd rfl h | simp [step, select]

def covered : List Segment → Nat
  | [] => 0
  | s :: rest => s.length + covered rest

/-- A step holds one more byte, or cuts off the bytes that are held. -/
theorem covered_cut_cons {state : State} {held : Nat} (h : state ≠ .start → 1 ≤ held)
    (next : ByteClass) (rest : List ByteClass) :
    covered (cut state held (next :: rest)) =
      if (step state next).1 = .none then covered (cut (step state next).2 (held + 1) rest)
      else held + covered (cut (step state next).2 1 rest) := by
  have hstart : (step state next).1 ≠ .none → 1 ≤ held := fun hcut => h fun hstate => by
    rw [hstate] at hcut
    exact hcut (step_start next)
  rw [cut]
  generalize step state next = p at hstart
  obtain ⟨before, after⟩ := p
  cases before with
  | none => rfl
  | here mode => rfl
  | split =>
    have hheld : 1 ≤ held := hstart (by simp)
    simp only [reduceCtorEq, if_false]
    split
    · simp only [List.singleton_append, covered]
      omega
    · simp only [List.nil_append, covered]
      omega

/-- The segments of `cut` hold the bytes that were held and those that follow. -/
theorem covered_cut {classes : List ByteClass} (hclasses : ∀ c ∈ classes, c ≠ .end) {state : State}
    {held : Nat} (hstart : state = .start → held = 0) (h : state ≠ .start → 1 ≤ held) :
    covered (cut state held (classes ++ [.end])) = held + classes.length := by
  induction classes generalizing state held with
  | nil =>
    rw [List.nil_append, covered_cut_cons h]
    by_cases hstate : state = .start
    · rw [hstart hstate, hstate]
      rfl
    · rw [if_neg (step_end hstate)]
      rfl
  | cons next classes ih =>
    obtain ⟨hnext, hrest⟩ := List.forall_mem_cons.1 hclasses
    have hafter := step_ne_start state hnext
    rw [List.cons_append, covered_cut_cons h, List.length_cons]
    split
    · rw [ih hrest (fun heq => absurd heq hafter) fun _ => Nat.le_add_left 1 held]
      omega
    · rw [ih hrest (fun heq => absurd heq hafter) fun _ => Nat.le_refl 1]
      omega

theorem covered_segments (bytes : List UInt8) : covered (segments bytes) = bytes.length := by
  have hclasses : ∀ c ∈ bytes.map ByteClass.of, c ≠ .end := by
    intro c hc
    obtain ⟨b, -, rfl⟩ := List.mem_map.1 hc
    exact of_ne_end b
  rw [segments, covered_cut hclasses (fun _ => rfl) fun h => absurd rfl h, List.length_map,
    Nat.zero_add]

/-! ### Bits of segments -/

theorem le_bits (c : VersionClass) (s : Segment) : 3 * s.length ≤ bits c s := by
  obtain ⟨mode, length⟩ := s
  have hlength : 8 ≤ lengthBits c mode := by cases c <;> cases mode <;> decide
  rw [bits]
  cases mode with
  | numeric => simp only [dataBits]; omega
  | alphanumeric => simp only [dataBits]; omega
  | byte => simp only [dataBits]; omega
  | kanji => simp only [dataBits] at hlength ⊢; omega

theorem le_joinedBits (c : VersionClass) (current : Segment) (segments : List Segment) :
    3 * (current.length + covered segments) ≤ joinedBits c current segments := by
  induction segments generalizing current with
  | nil => exact le_bits c current
  | cons s rest ih =>
    rw [joinedBits, covered]
    split
    · have hjoined := ih ⟨current.mode.join s.mode, current.length + s.length⟩
      simp only at hjoined
      omega
    · have hcurrent := le_bits c current
      have hrest := ih s
      omega

theorem le_totalBits (c : VersionClass) (segments : List Segment) :
    3 * covered segments ≤ totalBits c segments := by
  cases segments with
  | nil => exact Nat.zero_le _
  | cons s rest => exact le_joinedBits c s rest

theorem capacity_most_le (c : VersionClass) : capacity c.most ≤ 18672 := by cases c <;> decide

/-- A symbol holds far fewer bytes than a word of sixteen bits counts. -/
theorem length_le_of_modules? {bytes : List UInt8} {modules : Nat}
    (h : modules? bytes = some modules) : bytes.length ≤ 6224 := by
  obtain ⟨version, hversion, -⟩ := Option.map_eq_some_iff.1 h
  obtain ⟨c, -, hc⟩ := List.exists_of_findSome?_eq_some hversion
  have hcapacity := capacity_most_le c
  have hbits := le_totalBits c (segments bytes)
  rw [covered_segments] at hbits
  simp only at hc
  split at hc
  · omega
  · cases hc

end ReceiptPrinter.QrSymbol

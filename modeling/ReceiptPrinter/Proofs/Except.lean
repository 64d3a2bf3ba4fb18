/-!
# Computations that may fail

`>>=` and `map` succeed exactly if all their parts do, and what every step of a `foldlM` keeps holds
of its result.
-/

namespace ReceiptPrinter

universe u v
variable {ε : Type u} {α β : Type v}

theorem ok_bind (a : α) (f : α → Except ε β) : (Except.ok a : Except ε α) >>= f = f a := rfl

theorem bind_eq_ok_iff {x : Except ε α} {f : α → Except ε β} {b : β} :
    x >>= f = .ok b ↔ ∃ a, x = .ok a ∧ f a = .ok b := by
  constructor
  · intro h
    cases x with
    | error e => cases h
    | ok a => exact ⟨a, rfl, h⟩
  · rintro ⟨a, rfl, hf⟩
    exact hf

theorem bind_eq_error_iff {x : Except ε α} {f : α → Except ε β} {e : ε} :
    x >>= f = .error e ↔ x = .error e ∨ ∃ a, x = .ok a ∧ f a = .error e := by
  cases x with
  | error e' =>
    show Except.error e' = Except.error e ↔ _
    simp
  | ok a =>
    show f a = .error e ↔ _
    simp

theorem map_eq_error_iff {x : Except ε α} {f : α → β} {e : ε} :
    x.map f = .error e ↔ x = .error e := by
  cases x <;> simp [Except.map]

theorem exists_eq_ok_iff {x : Except ε α} : (∃ a, x = .ok a) ↔ ∀ e, x ≠ .error e := by
  cases x <;> simp

theorem map_eq_ok_iff {x : Except ε α} {f : α → β} {b : β} :
    x.map f = .ok b ↔ ∃ a, x = .ok a ∧ f a = b := by
  constructor
  · intro h
    cases x with
    | error e => cases h
    | ok a =>
      cases h
      exact ⟨a, rfl, rfl⟩
  · rintro ⟨a, rfl, rfl⟩
    rfl

theorem exists_map_eq_ok_iff {x : Except ε α} {f : α → β} :
    (∃ b, x.map f = .ok b) ↔ ∃ a, x = .ok a := by
  constructor
  · rintro ⟨b, h⟩
    obtain ⟨a, ha, -⟩ := map_eq_ok_iff.1 h
    exact ⟨a, ha⟩
  · rintro ⟨a, rfl⟩
    exact ⟨f a, rfl⟩

/-- An invariant of the step is one of the fold. -/
theorem foldlM_induction {P : β → Prop} {f : β → α → Except ε β} {l : List α} {b r : β}
    (hstep : ∀ b a b', P b → f b a = .ok b' → P b') (hb : P b) (h : l.foldlM f b = .ok r) :
    P r := by
  induction l generalizing b with
  | nil =>
    cases h
    exact hb
  | cons a l ih =>
    rw [List.foldlM_cons, bind_eq_ok_iff] at h
    obtain ⟨b', hf, h⟩ := h
    exact ih (hstep b a b' hb hf) h

/-- A fold whose steps succeed or fail by their element alone succeeds if it does at every element.
-/
theorem exists_foldlM_eq_ok_iff {f : β → α → Except ε β}
    (hf : ∀ b b' a r, f b a = .ok r → ∃ r', f b' a = .ok r') (l : List α) (b : β) :
    (∃ r, l.foldlM f b = .ok r) ↔ ∀ a ∈ l, ∃ r, f b a = .ok r := by
  induction l generalizing b with
  | nil => exact ⟨fun _ => by simp, fun _ => ⟨b, rfl⟩⟩
  | cons a l ih =>
    rw [List.forall_mem_cons]
    constructor
    · rintro ⟨r, h⟩
      rw [List.foldlM_cons, bind_eq_ok_iff] at h
      obtain ⟨b', hb', h⟩ := h
      refine ⟨⟨b', hb'⟩, fun a' ha' => ?_⟩
      obtain ⟨r', hr'⟩ := (ih b').1 ⟨r, h⟩ a' ha'
      exact hf b' b a' r' hr'
    · rintro ⟨⟨b', hb'⟩, hl⟩
      obtain ⟨r, hr⟩ := (ih b').2 fun a' ha' => by
        obtain ⟨r', hr'⟩ := hl a' ha'
        exact hf b b' a' r' hr'
      exact ⟨r, by rw [List.foldlM_cons, hb', ok_bind, hr]⟩

end ReceiptPrinter

import Mathlib.Order.Bounds.Basic
import ReceiptPrinter.Proofs.Receipt.Framing

/-!
# The modules of a barcode

A barcode is printed with the widest modules, of two to six dots, at which it stays on the paper and
within the width that is asked for. That is so (`SizedBy`) for the modules that are counted, where
every opening brace of a Code 128 content counts twice, since it is sent twice; it is so for the
modules of the symbol, which has one character for a brace, exactly if both counts come to the same
width. A content with braces may be printed too narrow, or refused although it fits.
-/

namespace ReceiptPrinter.Barcode

/-! ### Modules -/

/-- The modules of the symbol: each character of the content is one symbol character. -/
def symbolModules (b : Barcode) : Nat := modules b.symbology b.content.length

/-- The modules that are counted: an opening brace counts as two symbol characters. -/
def countedModules (b : Barcode) : Nat :=
  modules b.symbology (b.content.length + b.content.count '{')

theorem modules_data {b : Barcode} {data : List UInt8} (h : b.data = .ok data) :
    modules b.symbology (characters b.symbology data) = b.countedModules := by
  rcases b with ⟨symbology, content, height, width, textPosition, align⟩
  cases symbology with
  | ean13 => rfl
  | ean8 => rfl
  | upcA => rfl
  | code128 =>
    have hlength := length_code128Data (data_eq_ok_iff.1 h)
    rw [countedModules, characters, hlength, Nat.add_sub_cancel]

theorem modules_pos (symbology : Symbology) (n : Nat) : 0 < modules symbology n := by
  cases symbology <;> simp only [modules] <;> omega

theorem countedModules_eq {b : Barcode} (h : b.symbology = .code128 → '{' ∉ b.content) :
    b.countedModules = b.symbolModules := by
  rcases b with ⟨symbology, content, height, width, textPosition, align⟩
  cases symbology with
  | ean13 => rfl
  | ean8 => rfl
  | upcA => rfl
  | code128 =>
    have hnone : content.count '{' = 0 := List.count_eq_zero.2 (h rfl)
    rw [countedModules, symbolModules, hnone, Nat.add_zero]

/-! ### Dots per module -/

/-- The dots per module at which `modules` modules take at most `dots`. -/
def Fitting (modules dots : Nat) : Set Nat := {m | 2 ≤ m ∧ m ≤ 6 ∧ m * modules ≤ dots}

/-- Whether `m` dots per module are as many as `b` may have if it counts `modules`. -/
def Widest (config : Config) (b : Barcode) (modules m : Nat) : Prop :=
  match b.width with
  | none => IsGreatest (Fitting modules config.printableDots) m
  | some mm =>
    let dots := min (config.geometry.dotsOfMillimetres mm) config.printableDots
    IsGreatest (Fitting modules dots) m ∨ (Fitting modules dots = ∅ ∧ m = 2)

def room (config : Config) (b : Barcode) : Nat :=
  match b.width with
  | none => config.printableDots
  | some mm => min (config.geometry.dotsOfMillimetres mm) config.printableDots

/-- The dots per module of `b` if it counts `modules`; none if it is too wide. -/
def moduleDots? (config : Config) (b : Barcode) (modules : Nat) : Option Nat :=
  if config.printableDots < 2 * modules then none
  else some (max 2 (min 6 (b.room config / modules)))

def commandsOf (config : Config) (b : Barcode) (data : List UInt8) (m : Nat) : List Command :=
  [.align b.align, .barcodeHeight (Command.clamp 1 255 (config.geometry.dotsOfMillimetres b.height)),
    .barcodeModule m, .barcodeText b.textPosition, .barcode b.symbology data]

theorem min_div (dots dots' modules : Nat) :
    min dots dots' / modules = min (dots / modules) (dots' / modules) := by
  rcases Nat.le_total dots dots' with h | h
  · rw [Nat.min_eq_left h, Nat.min_eq_left (Nat.div_le_div_right h)]
  · rw [Nat.min_eq_right h, Nat.min_eq_right (Nat.div_le_div_right h)]

theorem isGreatest_fitting {modules dots : Nat} (hpos : 0 < modules) (hfits : 2 * modules ≤ dots) :
    IsGreatest (Fitting modules dots) (max 2 (min 6 (dots / modules))) := by
  have htwo : 2 ≤ dots / modules := (Nat.le_div_iff_mul_le hpos).2 hfits
  have hmax : max 2 (min 6 (dots / modules)) = min 6 (dots / modules) := by omega
  rw [hmax]
  constructor
  · refine ⟨by omega, Nat.min_le_left _ _, ?_⟩
    exact Nat.mul_le_of_le_div _ _ _ (Nat.min_le_right _ _)
  · rintro m ⟨-, hsix, hm⟩
    exact Nat.le_min.2 ⟨hsix, (Nat.le_div_iff_mul_le hpos).2 hm⟩

theorem fitting_eq_empty {modules dots : Nat} (h : dots < 2 * modules) :
    Fitting modules dots = ∅ := by
  refine Set.eq_empty_iff_forall_notMem.2 ?_
  rintro m ⟨htwo, -, hm⟩
  have hle : 2 * modules ≤ m * modules := Nat.mul_le_mul_right modules htwo
  omega

/-- `moduleDots?` gives the widest modules that fit. -/
theorem widest_of_moduleDots? {config : Config} {b : Barcode} {modules m : Nat}
    (hpos : 0 < modules) (h : b.moduleDots? config modules = some m) :
    b.Widest config modules m := by
  unfold moduleDots? at h
  split at h
  · cases h
  · next hfits =>
    cases h
    unfold Widest room
    cases b.width with
    | none => exact isGreatest_fitting hpos (Nat.not_lt.1 hfits)
    | some mm =>
      simp only
      rcases Nat.lt_or_ge (min (config.geometry.dotsOfMillimetres mm) config.printableDots)
        (2 * modules) with hnarrow | hwide
      · -- less than two dots per module are asked for
        refine .inr ⟨fitting_eq_empty hnarrow, ?_⟩
        have hdiv := Nat.div_lt_of_lt_mul (Nat.mul_comm 2 modules ▸ hnarrow)
        omega
      · exact .inl (isGreatest_fitting hpos hwide)

theorem Widest.unique {config : Config} {b : Barcode} {modules m m' : Nat}
    (h : b.Widest config modules m) (h' : b.Widest config modules m') : m = m' := by
  unfold Widest at h h'
  cases hwidth : b.width with
  | none =>
    rw [hwidth] at h h'
    exact IsGreatest.unique h h'
  | some mm =>
    rw [hwidth] at h h'
    rcases h with hm | ⟨hempty, rfl⟩
    · rcases h' with hm' | ⟨hempty, -⟩
      · exact hm.unique hm'
      · exact absurd (hempty ▸ hm.1) (Set.notMem_empty m)
    · rcases h' with hm' | ⟨-, rfl⟩
      · exact absurd (hempty ▸ hm'.1) (Set.notMem_empty m')
      · rfl

/-! ### Commands -/

/-- `commands` refuses a barcode as too wide, or prints it with the dots per module that its
`countedModules` come to. -/
theorem commands_eq (config : Config) {b : Barcode} {data : List UInt8} (h : b.data = .ok data) :
    b.commands config = match b.moduleDots? config b.countedModules with
      | none => .error (.barcodeTooWide b.content config.printableDots)
      | some m => .ok (b.commandsOf config data m) := by
  have hpos : 0 < b.countedModules := modules_pos _ _
  unfold commands moduleDots?
  rw [h, ok_bind]
  simp only [modules_data h]
  by_cases hwide : config.printableDots < 2 * b.countedModules
  · have hfit := Nat.div_lt_of_lt_mul (Nat.mul_comm 2 b.countedModules ▸ hwide)
    rw [if_pos hfit, if_pos hwide]
  · have hfit : 2 ≤ config.printableDots / b.countedModules :=
      (Nat.le_div_iff_mul_le hpos).2 (Nat.not_lt.1 hwide)
    rw [if_neg (Nat.not_lt.2 hfit), if_neg hwide]
    simp only [commandsOf, room]
    cases b.width with
    | none =>
      have hclamp : ∀ fit, 2 ≤ fit → min (Command.clamp 2 6 fit) fit = max 2 (min 6 fit) := by
        intro fit hfit
        rw [Command.clamp]
        omega
      rw [hclamp _ hfit]
    | some mm =>
      have hclamp : ∀ wanted fit, 2 ≤ fit →
          min (Command.clamp 2 6 wanted) fit = max 2 (min 6 (min wanted fit)) := by
        intro wanted fit hfit
        rw [Command.clamp]
        omega
      rw [min_div, hclamp _ _ hfit]

/-- Whether `b` is printed as one of `modules`: it is refused exactly if two dots per module are too
many for the paper, and has the widest modules otherwise. -/
structure SizedBy (config : Config) (b : Barcode) (data : List UInt8) (modules : Nat) : Prop where
  tooWide_iff : b.commands config = .error (.barcodeTooWide b.content config.printableDots) ↔
    config.printableDots < 2 * modules
  widest : 2 * modules ≤ config.printableDots →
    ∃ m, b.commands config = .ok (b.commandsOf config data m) ∧ b.Widest config modules m

theorem commandsOf_inj {config : Config} {b : Barcode} {data : List UInt8} {m m' : Nat}
    (h : b.commandsOf config data m = b.commandsOf config data m') : m = m' := by
  simpa [commandsOf] using h

theorem moduleDots?_eq_none_iff {config : Config} {b : Barcode} {modules : Nat} :
    b.moduleDots? config modules = none ↔ config.printableDots < 2 * modules := by
  rw [moduleDots?]
  split
  · next hwide => exact ⟨fun _ => hwide, fun _ => rfl⟩
  · next hfits => exact ⟨nofun, fun hwide => absurd hwide hfits⟩

/-- `SizedBy` compares the dots per module with those of the `countedModules`. -/
theorem sizedBy_iff {config : Config} {b : Barcode} {data : List UInt8} (h : b.data = .ok data)
    {modules : Nat} (hpos : 0 < modules) :
    b.SizedBy config data modules ↔
      b.moduleDots? config modules = b.moduleDots? config b.countedModules := by
  have hcommands := commands_eq config h
  constructor
  · intro hsized
    cases hdots : b.moduleDots? config modules with
    | none =>
      have herror := hsized.tooWide_iff.2 (moduleDots?_eq_none_iff.1 hdots)
      rw [hcommands] at herror
      split at herror
      · next hcounted => exact hcounted.symm
      · cases herror
    | some m =>
      have hfits : ¬config.printableDots < 2 * modules := fun hwide => by
        rw [moduleDots?_eq_none_iff.2 hwide] at hdots
        cases hdots
      obtain ⟨m', hok, hwidest⟩ := hsized.widest (Nat.not_lt.1 hfits)
      rw [hwidest.unique (widest_of_moduleDots? hpos hdots), hcommands] at hok
      split at hok
      · cases hok
      · next counted hcounted =>
        rw [hcounted, commandsOf_inj (Except.ok.inj hok)]
  · intro hdots
    rw [← hdots] at hcommands
    constructor
    · rw [hcommands, ← moduleDots?_eq_none_iff]
      cases b.moduleDots? config modules with
      | none => exact ⟨fun _ => rfl, fun _ => rfl⟩
      | some m => exact ⟨nofun, nofun⟩
    · intro hfits
      cases hm : b.moduleDots? config modules with
      | none => exact absurd (moduleDots?_eq_none_iff.1 hm) (Nat.not_lt.2 hfits)
      | some m =>
        rw [hm] at hcommands
        exact ⟨m, hcommands, widest_of_moduleDots? hpos hm⟩

/-- A barcode with data is `SizedBy` its `countedModules`. It is sized by its `symbolModules`
exactly if both come to the same dots per module, so always unless a Code 128 content holds an
opening brace. -/
theorem sizedBy_symbolModules_iff (config : Config) {b : Barcode} {data : List UInt8}
    (h : b.data = .ok data) :
    b.SizedBy config data b.countedModules ∧
    (b.SizedBy config data b.symbolModules ↔
      b.moduleDots? config b.symbolModules = b.moduleDots? config b.countedModules) ∧
    ((b.symbology = .code128 → '{' ∉ b.content) → b.SizedBy config data b.symbolModules) := by
  have hcounted : b.SizedBy config data b.countedModules := (sizedBy_iff h (modules_pos _ _)).2 rfl
  refine ⟨hcounted, sizedBy_iff h (modules_pos _ _), fun hnone => ?_⟩
  rw [← countedModules_eq hnone]
  exact hcounted

def narrowPaper : Config where
  geometry := {}
  cut := .full
  openDrawer := false
  disconnectAfterPrint := false
  feedLines := Number.Single.zero
  charset := .gbk
  target := .usb 1 1

/-- Four braces: the symbol has 79 modules, and 123 are counted. -/
def fourBraces : Barcode := { symbology := .code128, content := List.replicate 4 '{' }

def fourBracesData : List UInt8 := 0x7B :: 0x42 :: List.replicate 8 0x7B

theorem sizedBy_fourBraces :
    fourBraces.data = .ok fourBracesData ∧
    fourBraces.SizedBy narrowPaper fourBracesData fourBraces.countedModules ∧
    (fourBraces.SizedBy narrowPaper fourBracesData fourBraces.symbolModules ↔
      fourBraces.moduleDots? narrowPaper fourBraces.symbolModules =
        fourBraces.moduleDots? narrowPaper fourBraces.countedModules) ∧
    ((fourBraces.symbology = .code128 → '{' ∉ fourBraces.content) →
      fourBraces.SizedBy narrowPaper fourBracesData fourBraces.symbolModules) :=
  have hdata : fourBraces.data = .ok fourBracesData := rfl
  ⟨hdata, sizedBy_symbolModules_iff narrowPaper hdata⟩

/-- Four braces are printed with three dots per module, though the symbol fits with four. -/
theorem fourBraces_printed_narrow :
    fourBraces.data = .ok fourBracesData ∧
    fourBraces.commands narrowPaper =
      .ok (fourBraces.commandsOf narrowPaper fourBracesData 3) ∧
    4 * fourBraces.symbolModules ≤ narrowPaper.printableDots ∧
    ¬fourBraces.SizedBy narrowPaper fourBracesData fourBraces.symbolModules := by
  have hdata : fourBraces.data = .ok fourBracesData := rfl
  have hdots : fourBraces.moduleDots? narrowPaper fourBraces.countedModules = some 3 := rfl
  have hcommands := commands_eq narrowPaper hdata
  rw [hdots] at hcommands
  have hfits : 4 * fourBraces.symbolModules ≤ narrowPaper.printableDots := by decide
  refine ⟨hdata, hcommands, hfits, fun hsized => ?_⟩
  obtain ⟨m, hok, hwidest⟩ := hsized.widest (by omega)
  rw [hcommands] at hok
  have hm : 3 = m := commandsOf_inj (Except.ok.inj hok)
  have hfour : 4 ≤ m := hwidest.2 ⟨by decide, by decide, hfits⟩
  omega

end ReceiptPrinter.Barcode

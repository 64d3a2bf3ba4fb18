import ReceiptPrinter.CodePage.Gbk

/-!
# Characters without a GBK code

`Gbk.encode?` has no code for a control character, those from `80` to `9F` included, so each counts
the one column of the blank that is printed for it.
-/

namespace ReceiptPrinter.Gbk

/-- Whether `row` has printable characters only. The least one is the currency sign, `A4`. -/
def IsPrintable (row : String) : Prop := (row.toList.all fun c => 0xA0 ≤ c.toNat) = true

theorem isPrintable_ofList {s : List Char} (h : (s.all fun c => 0xA0 ≤ c.toNat) = true) :
    IsPrintable (String.ofList s) := by
  unfold IsPrintable
  rw [String.toList_ofList]
  exact h

set_option maxRecDepth 20000 in
theorem isPrintable_rows : ∀ row ∈ rows, IsPrintable row := by
  unfold rows
  -- the kernel takes the table row by row
  repeat'
    first
    | exact List.forall_mem_nil _
    | refine List.forall_mem_cons.2 ⟨?_, ?_⟩
      · apply isPrintable_ofList
        decide +kernel

/-- `insertIfNew` brings no characters into an index but those of `cells`. -/
theorem mem_foldl_insertIfNew {cells : List (Char × Nat)} {m : Std.HashMap Char Nat} {c : Char}
    (h : c ∈ cells.foldl (fun m (c, cell) => m.insertIfNew c cell) m) :
    c ∈ m ∨ c ∈ cells.map Prod.fst := by
  induction cells generalizing m with
  | nil => exact .inl h
  | cons entry cells ih =>
    rw [List.map_cons, List.mem_cons]
    rcases ih h with hm | hcells
    · rcases Std.HashMap.mem_insertIfNew.1 hm with heq | hm
      · exact .inr (.inl (eq_of_beq heq).symm)
      · exact .inl hm
    · exact .inr (.inr hcells)

theorem exists_row_of_mem_index {c : Char} (h : c ∈ index) : ∃ row ∈ rows, c ∈ row.toList := by
  rcases mem_foldl_insertIfNew h with hnone | hcells
  · exact absurd hnone Std.HashMap.not_mem_empty
  · rw [List.zipIdx_map_fst] at hcells
    exact List.mem_flatMap.1 hcells

theorem notMem_index {c : Char} (h : c.toNat < 0xA0) : c ∉ index := by
  intro hmem
  obtain ⟨row, hrow, hc⟩ := exists_row_of_mem_index hmem
  have hle := of_decide_eq_true (List.all_eq_true.1 (isPrintable_rows row hrow) c hc)
  omega

/-- `modern` leaves characters before the private-use area as they are. -/
theorem modern_of_lt {c : Char} (h : c.toNat < 0xE000) : modern c = c := by
  have hnone : legacy.lookup c.toNat = none := by
    rw [List.lookup_eq_none_iff]
    intro entry hentry
    have hlegacy : ∀ entry ∈ legacy, 0xE000 ≤ entry.1 := by decide
    have hle := hlegacy entry hentry
    rw [bne_iff_ne]
    omega
  rw [modern, hnone]

theorem encode?_eq_none {c : Char} (h : c.toNat < 0xA0) : encode? c = none := by
  rw [encode?, modern_of_lt (by omega), Std.HashMap.getElem?_eq_none (notMem_index h)]
  rfl

end ReceiptPrinter.Gbk

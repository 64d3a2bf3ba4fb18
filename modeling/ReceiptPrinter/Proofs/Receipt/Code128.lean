import ReceiptPrinter.Proofs.Receipt.ModuleWidth

/-!
# Code 128 data

In the data of a Code 128 barcode an opening brace starts an escape: before another brace it stands
for one brace, before anything else it selects a code set or a function. `Conveys`: the data of a
content is counted, and read back as the content alone, in code set B and with no other escape, for
every run of braces in it; so contents that differ are sent as data that differ.
-/

namespace ReceiptPrinter.Barcode

/-- What the firmware reads in Code 128 data. -/
inductive SymbolItem where
  /-- A code set or a function, by the byte after the brace. -/
  | escape (b : UInt8)
  | character (b : UInt8)
  deriving DecidableEq, Repr

/-- Reads Code 128 data item by item; a brace that nothing follows is no item. -/
def readSymbol? : List UInt8 → Option (List SymbolItem)
  | [] => some []
  | b :: rest =>
    if b ≠ 0x7B then (readSymbol? rest).map (.character b :: ·)
    else
      match rest with
      | [] => none
      | b' :: rest =>
        (readSymbol? rest).map ((if b' = 0x7B then .character b' else .escape b') :: ·)

def SymbolItem.char? : SymbolItem → Option Char
  | .escape _ => none
  | .character b => some (Char.ofNat b.toNat)

/-- The text that a symbol shows, if its data selects code set B and no other one. -/
def symbolText? (data : List UInt8) : Option Text :=
  match readSymbol? data with
  | some (.escape 0x42 :: items) => items.mapM SymbolItem.char?
  | _ => none

/-- Whether `data` is what Code 128 needs for `content`. -/
structure Conveys (content : Text) (data : List UInt8) : Prop where
  /-- The mark of code set B, then the content with every brace twice. -/
  data_eq : data = [0x7B, 0x42] ++ (doubleBraces content).map fun c => UInt8.ofNat c.toNat
  length_eq : data.length = 2 + content.length + content.count '{'
  length_le : data.length ≤ 255
  /-- The one byte that counts the data does not wrap. -/
  counted : ∃ n : UInt8, n.toNat = data.length ∧
    (Command.barcode .code128 data).bytes = [0x1D, 0x6B, 73, n] ++ data
  /-- Every character is read by itself, after the one escape. -/
  read : readSymbol? data =
    some (.escape 0x42 :: content.map fun c => .character (UInt8.ofNat c.toNat))
  text : symbolText? data = some content

theorem toNat_le_of_isPrintable {c : Char} (h : isPrintable c = true) : c.toNat ≤ 0x7E :=
  (isPrintable_iff.1 h).2

theorem ofNat_toNat_byte {c : Char} (h : isPrintable c = true) :
    Char.ofNat (UInt8.ofNat c.toNat).toNat = c := by
  have hle := toNat_le_of_isPrintable h
  rw [Command.toNat_ofNat (by omega), Char.ofNat_toNat]

theorem byte_eq_brace_iff {c : Char} (h : isPrintable c = true) :
    UInt8.ofNat c.toNat = 0x7B ↔ c = '{' := by
  constructor
  · intro hbyte
    rw [← ofNat_toNat_byte h, hbyte]
    rfl
  · rintro rfl
    rfl

theorem data_of_code128_iff {b : Barcode} (h : b.symbology = .code128) {data : List UInt8} :
    b.data = .ok data ↔ code128Data b.content = .ok data := by
  rw [data_eq_ok_iff, h]
  rfl

/-! ### Reading back -/

theorem readSymbol?_cons {b : UInt8} (h : b ≠ 0x7B) (rest : List UInt8) :
    readSymbol? (b :: rest) = (readSymbol? rest).map (.character b :: ·) := by
  rw [readSymbol?.eq_def]
  exact if_pos h

theorem readSymbol?_brace (rest : List UInt8) :
    readSymbol? (0x7B :: 0x7B :: rest) = (readSymbol? rest).map (.character 0x7B :: ·) := rfl

/-- `readSymbol?` takes `doubleBraces` apart from the left, so a run of braces is read one by one.
-/
theorem readSymbol?_doubleBraces {s : Text} (h : ∀ c ∈ s, isPrintable c = true) :
    readSymbol? ((doubleBraces s).map fun c => UInt8.ofNat c.toNat) =
      some (s.map fun c => .character (UInt8.ofNat c.toNat)) := by
  induction s with
  | nil => rfl
  | cons c s ih =>
    rw [List.forall_mem_cons] at h
    rw [doubleBraces_cons, List.map_append, List.map_cons]
    by_cases hbrace : c = '{'
    · subst hbrace
      rw [if_pos rfl]
      show readSymbol? (0x7B :: 0x7B :: (doubleBraces s).map _) = _
      rw [readSymbol?_brace, ih h.2]
      rfl
    · rw [if_neg hbrace]
      show readSymbol? (UInt8.ofNat c.toNat :: (doubleBraces s).map _) = _
      rw [readSymbol?_cons (mt (byte_eq_brace_iff h.1).1 hbrace), ih h.2]
      rfl

theorem mapM_char? {s : Text} (h : ∀ c ∈ s, isPrintable c = true) :
    (s.map fun c => SymbolItem.character (UInt8.ofNat c.toNat)).mapM SymbolItem.char? =
      some s := by
  induction s with
  | nil => rfl
  | cons c s ih =>
    rw [List.forall_mem_cons] at h
    rw [List.map_cons, List.mapM_cons, ih h.2, SymbolItem.char?, ofNat_toNat_byte h.1]
    rfl

theorem conveys_of_eq_ok {content : Text} {data : List UInt8}
    (h : code128Data content = .ok data) : Conveys content data := by
  obtain ⟨⟨-, hprintable, hlength⟩, heq⟩ := code128Data_eq_ok_iff.1 h
  have hlength_eq : data.length = 2 + content.length + content.count '{' := by
    rw [length_code128Data h]
    omega
  have hread : readSymbol? data =
      some (.escape 0x42 :: content.map fun c => .character (UInt8.ofNat c.toNat)) := by
    rw [heq]
    show (readSymbol? ((doubleBraces content).map _)).map _ = _
    rw [readSymbol?_doubleBraces hprintable]
    rfl
  refine ⟨heq, hlength_eq, by omega, ⟨_, Command.toNat_ofNat (by omega), rfl⟩, hread, ?_⟩
  rw [symbolText?, hread]
  exact mapM_char? hprintable

/-- A Code 128 content is accepted exactly if it is printable ASCII, not empty, and not too long
with its braces doubled. Its data then `Conveys` it, and is that of no other content. -/
theorem conveys_of_code128 {b : Barcode} (h : b.symbology = .code128) :
    ((∃ data, b.data = .ok data) ↔
      b.content ≠ [] ∧ (∀ c ∈ b.content, ' ' ≤ c ∧ c ≤ '~') ∧
        b.content.length + b.content.count '{' ≤ 253) ∧
    ∀ data, b.data = .ok data → Conveys b.content data ∧
      ∀ b' : Barcode, b'.symbology = .code128 → b'.data = .ok data → b'.content = b.content := by
  constructor
  · simp only [data_of_code128_iff h, code128Data_eq_ok_iff, exists_and_left, exists_eq, and_true,
      isPrintable_iff]
  · intro data hdata
    have hconveys := conveys_of_eq_ok ((data_of_code128_iff h).1 hdata)
    refine ⟨hconveys, fun b' h' hdata' => ?_⟩
    have hconveys' := conveys_of_eq_ok ((data_of_code128_iff h').1 hdata')
    exact Option.some.inj (hconveys'.text.symm.trans hconveys.text)

def braced : Barcode := { symbology := .code128, content := ['{', 'A', '{', '{'] }

theorem conveys_braced :
    braced.symbology = .code128 ∧
    ∃ data, braced.data = .ok data ∧ data = [0x7B, 0x42, 0x7B, 0x7B, 0x41, 0x7B, 0x7B, 0x7B, 0x7B] ∧
      Conveys braced.content data ∧
      ∀ b' : Barcode, b'.symbology = .code128 → b'.data = .ok data →
        b'.content = braced.content :=
  have hdata : braced.data =
      .ok [0x7B, 0x42, 0x7B, 0x7B, 0x41, 0x7B, 0x7B, 0x7B, 0x7B] := rfl
  ⟨rfl, _, hdata, rfl, (conveys_of_code128 rfl).2 _ hdata⟩

end ReceiptPrinter.Barcode

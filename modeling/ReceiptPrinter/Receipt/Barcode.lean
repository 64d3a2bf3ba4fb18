import ReceiptPrinter.Config.Basic
import ReceiptPrinter.Receipt.Error

/-!
# Linear barcodes

Numeric barcodes end with a check digit: with weights 3 and 1 in turn from the last digit of the
payload, it brings the weighted sum to a multiple of ten. In Code 128 a brace starts a code set, so
a literal one is doubled.
-/

namespace ReceiptPrinter

namespace Barcode

def digit? (c : Char) : Option Nat := if c.isDigit then some (c.toNat - 48) else none

/-- The sum of digits, the first one weighted 3 and then 1 and 3 in turn. -/
def weightedSum : Bool → List Nat → Nat
  | _, [] => 0
  | triple, d :: ds => (if triple then 3 * d else d) + weightedSum (!triple) ds

/-- The check digit of a payload of digits, which makes the weighted sum a multiple of ten. -/
def checkDigit? (payload : Text) : Option Nat :=
  (payload.reverse.mapM digit?).map fun ds => (10 - weightedSum true ds % 10) % 10

/-- The digits to print for a payload of fixed length: the payload with its check digit, which may
be given. -/
def numericData (payloadLength : Nat) (content : Text) : Except BarcodeFault (List UInt8) :=
  if !content.all Char.isDigit then .error .notDigits
  else if content.length ≠ payloadLength ∧ content.length ≠ payloadLength + 1 then
    .error (.wrongLength payloadLength content.length)
  else
    let payload := content.take payloadLength
    match checkDigit? payload with
    | none => .error .notDigits
    | some check =>
      let data := payload.map (fun c => UInt8.ofNat c.toNat) ++ [UInt8.ofNat (48 + check)]
      match content.drop payloadLength with
      | [] => .ok data
      | c :: _ =>
        if c.toNat - 48 = check then .ok data
        else .error (.wrongCheckDigit check (c.toNat - 48))

/-- The bytes that a Code 128 barcode may hold after `{B`. -/
def code128Most : Nat := 253

def isPrintable (c : Char) : Bool := ' ' ≤ c && c ≤ '~'

theorem isPrintable_iff {c : Char} : isPrintable c = true ↔ ' ' ≤ c ∧ c ≤ '~' := by
  rw [isPrintable, Bool.and_eq_true, decide_eq_true_eq, decide_eq_true_eq]

def doubleBraces (s : Text) : Text := s.flatMap fun c => if c = '{' then [c, c] else [c]

theorem doubleBraces_cons (c : Char) (s : Text) :
    doubleBraces (c :: s) = (if c = '{' then [c, c] else [c]) ++ doubleBraces s := rfl

theorem length_doubleBraces (s : Text) : (doubleBraces s).length = s.length + s.count '{' := by
  induction s with
  | nil => rfl
  | cons c s ih =>
    rw [doubleBraces_cons, List.length_append, ih, List.length_cons]
    by_cases hbrace : c = '{'
    · subst hbrace
      rw [if_pos rfl, List.count_cons_self]
      simp only [List.length_cons, List.length_nil]
      omega
    · rw [if_neg hbrace, List.count_cons_of_ne hbrace]
      simp only [List.length_cons, List.length_nil]
      omega

/-- `{B` for code set B, then the content with its braces doubled. -/
def code128Data (content : Text) : Except BarcodeFault (List UInt8) :=
  if content.isEmpty then .error .empty
  else
    match content.find? (!isPrintable ·) with
    | some c => .error (.unprintable c)
    | none =>
      let escaped := doubleBraces content
      if escaped.length > code128Most then .error (.tooLong code128Most)
      else .ok (0x7B :: 0x42 :: escaped.map fun c => UInt8.ofNat c.toNat)

theorem code128Data_eq_ok_iff {content : Text} {data : List UInt8} :
    code128Data content = .ok data ↔
      (content ≠ [] ∧ (∀ c ∈ content, isPrintable c = true) ∧
        content.length + content.count '{' ≤ 253) ∧
      data = [0x7B, 0x42] ++ (doubleBraces content).map fun c => UInt8.ofNat c.toNat := by
  unfold code128Data
  split
  · next hempty => simp [List.isEmpty_iff.1 hempty]
  · next hne =>
    rw [List.isEmpty_iff] at hne
    split
    · next c hfind =>
      -- the character that is found is not printable
      have hmem := List.mem_of_find?_eq_some hfind
      have hc := List.find?_some hfind
      simp only [Bool.not_eq_true'] at hc
      constructor
      · intro h
        cases h
      · rintro ⟨⟨-, hall, -⟩, -⟩
        rw [hall c hmem] at hc
        cases hc
    · next hnone =>
      have hall : ∀ c ∈ content, isPrintable c = true := by
        simpa using List.find?_eq_none.1 hnone
      simp only [length_doubleBraces, code128Most]
      split
      · next hlong =>
        constructor
        · intro h
          cases h
        · rintro ⟨⟨-, -, hshort⟩, -⟩
          omega
      · next hshort =>
        constructor
        · intro h
          cases h
          exact ⟨⟨hne, hall, by omega⟩, rfl⟩
        · rintro ⟨-, rfl⟩
          rfl

theorem length_code128Data {content : Text} {data : List UInt8}
    (h : code128Data content = .ok data) :
    data.length = content.length + content.count '{' + 2 := by
  obtain ⟨-, rfl⟩ := code128Data_eq_ok_iff.1 h
  rw [List.length_append, List.length_map, length_doubleBraces]
  exact Nat.add_comm _ _

/-- The data that a kind of barcode takes for `content`. -/
def dataOf : Symbology → Text → Except BarcodeFault (List UInt8)
  | .ean13 => numericData 12
  | .ean8 => numericData 7
  | .upcA => numericData 11
  | .code128 => code128Data

def data (b : Barcode) : Except EncodingError (List UInt8) :=
  match dataOf b.symbology b.content with
  | .ok data => .ok data
  | .error fault => .error (.barcodeContent b.symbology b.content fault)

theorem data_eq_ok_iff {b : Barcode} {data : List UInt8} :
    b.data = .ok data ↔ dataOf b.symbology b.content = .ok data := by
  rw [Barcode.data]
  split
  · next h => rw [h, Except.ok.injEq, Except.ok.injEq]
  · next h => rw [h]; exact ⟨nofun, nofun⟩

/-- The width of a symbol in modules, without quiet zones. -/
def modules (symbology : Symbology) (characters : Nat) : Nat :=
  match symbology with
  | .ean13 | .upcA => 95
  | .ean8 => 67
  | .code128 => 11 * (characters + 2) + 13

/-- The symbol characters that `data` stands for; the mark of the code set is none. -/
def characters (symbology : Symbology) (data : List UInt8) : Nat :=
  match symbology with
  | .code128 => data.length - 2
  | _ => data.length

/-- The commands that print `b`: modules of two to six dots, as wide as asked for or as fits. -/
def commands (config : Config) (b : Barcode) : Except EncodingError (List Command) := do
  let data ← b.data
  let modules := modules b.symbology (characters b.symbology data)
  let fit := config.printableDots / modules
  if fit < 2 then .error (.barcodeTooWide b.content config.printableDots)
  else
    let wanted := match b.width with
      | some mm => config.geometry.dotsOfMillimetres mm / modules
      | none => fit
    let module := min (Command.clamp 2 6 wanted) fit
    let height := Command.clamp 1 255 (config.geometry.dotsOfMillimetres b.height)
    .ok [.align b.align, .barcodeHeight height, .barcodeModule module, .barcodeText b.textPosition,
      .barcode b.symbology data]

end Barcode

end ReceiptPrinter

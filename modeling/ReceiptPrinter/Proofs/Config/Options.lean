import ReceiptPrinter.Config.Basic
import ReceiptPrinter.Proofs.Json.Writing

/-!
# Options survive their own JSON

Every field of options is written and read in its own way: numbers, names, switches, text and a
single-precision number, any of them possibly absent. `ReadsBack` relates the two for one field.
Options that are written by `toJson` and read back give the same configuration, or are refused with
the same error. A feed that is not finite is lost on the way, but it is not used either.
-/

namespace ReceiptPrinter

open Json Number

namespace Options

/-! ### Values of a field -/

/-- Whether `text` is read as a value that `read` turns into `a`. -/
def ReadsBack {α : Type} (text : Text) (read : Json → Except OptionsFault α) (a : α) : Prop :=
  ∃ v, ReadsAs text v ∧ read v = .ok a

/-- `writeOptional write` is read back by `optional read` if `write` is by `read`, which has to
refuse `null`. -/
theorem readsBack_optional {α β : Type} {write : α → Text} {read : Json → Except OptionsFault β}
    {f : α → β} (hnull : read .null = .error .malformed)
    (h : ∀ a, ReadsBack (write a) read (f a)) (x : Option α) :
    ReadsBack (writeOptional write x) (optional read) (x.map f) := by
  cases x with
  | none => exact ⟨.null, readsAs_null, rfl⟩
  | some a =>
    obtain ⟨v, hv, hread⟩ := h a
    refine ⟨v, hv, ?_⟩
    cases v with
    | null =>
      rw [hnull] at hread
      cases hread
    | _ => exact map_eq_ok_iff.2 ⟨f a, hread, rfl⟩

theorem readsBack_self {α : Type} {write : α → Text} {read : Json → Except OptionsFault α}
    (hnull : read .null = .error .malformed) (h : ∀ a, ReadsBack (write a) read a) (x : Option α) :
    ReadsBack (writeOptional write x) (optional read) x := by
  have hback := readsBack_optional hnull h x
  rwa [Option.map_id'] at hback

theorem readsBack_nat {most n : Nat} (h : n ≤ most) :
    ReadsBack (Text.ofNat n) (readNat most) n := by
  refine ⟨.number (.ofNat n), readsAs_ofNat n, ?_⟩
  rw [readNat, Numeral.toNat?_ofNat h]
  rfl

theorem readsBack_bool (b : Bool) : ReadsBack (writeBool b) readBool b := by
  cases b with
  | true => exact ⟨.bool true, readsAs_true, rfl⟩
  | false => exact ⟨.bool false, readsAs_false, rfl⟩

theorem readsBack_text (s : Text) : ReadsBack (quote s) readText s :=
  ⟨.string (some s), readsAs_quote s, rfl⟩

theorem readsBack_name {α : Type} {names : List (Text × α)} {name : Text} {a : α}
    (h : names.lookup name = some a) : ReadsBack (quote name) (readName names) a := by
  refine ⟨.string (some name), readsAs_quote name, ?_⟩
  rw [readName, h]
  rfl

theorem readsBack_cut (mode : CutMode) : ReadsBack (Text.ofNat mode.code) readCut mode := by
  refine ⟨.number (.ofNat mode.code), readsAs_ofNat _, ?_⟩
  have hcode : mode.code ≤ 255 := by cases mode <;> decide
  simp only [readCut, Numeral.toNat?_ofNat hcode]
  cases mode <;> rfl

theorem readsBack_single {x : Option Single}
    (h : ∀ a ∈ x, a.isFinite = true → single? a.toJson = some a) :
    ReadsBack (writeOptional Single.toJson x) (optional readSingle) (x.filter Single.isFinite) := by
  cases x with
  | none => exact ⟨.null, readsAs_null, rfl⟩
  | some a =>
    by_cases ha : a.isFinite = true
    · obtain ⟨n, hn, hread⟩ := exists_readsAs_of_single? (h a rfl ha)
      refine ⟨.number n, hread, ?_⟩
      rw [Option.filter_some_pos ha, optional, readSingle, hn]
      · rfl
      · simp
    · have hnull : a.toJson = "null".toList := by
        rw [Single.toJson, if_pos (by simp [ha])]
      rw [Option.filter_some_neg (Bool.eq_false_iff.2 ha), writeOptional, hnull]
      exact ⟨.null, readsAs_null, rfl⟩

/-! ### Fields -/

def copy (o : Options) (acc : Options) : Field → Options
  | .paperSize => { acc with paperSize := o.paperSize }
  | .dotsPerInch => { acc with dotsPerInch := o.dotsPerInch }
  | .cut => { acc with cut := o.cut }
  | .disconnectAfterPrint => { acc with disconnectAfterPrint := o.disconnectAfterPrint }
  | .feedAfterPrint => { acc with feedAfterPrint := o.feedAfterPrint }
  | .openDrawer => { acc with openDrawer := o.openDrawer }
  | .charset => { acc with charset := o.charset }
  | .transport => { acc with transport := o.transport }
  | .address => { acc with address := o.address }
  | .vendor => { acc with vendor := o.vendor }
  | .product => { acc with product := o.product }
  | .host => { acc with host := o.host }
  | .port => { acc with port := o.port }
  | .timeout => { acc with timeout := o.timeout }

theorem foldl_copy_all (o : Options) : Field.all.foldl o.copy {} = o := by
  simp only [Field.all, List.foldl_cons, List.foldl_nil, copy]

/-- What comes back of `o`: a feed that is not finite is written as `null`. -/
def written (o : Options) : Options :=
  { o with feedAfterPrint := o.feedAfterPrint.filter Single.isFinite }

theorem exists_set {α : Type} {write : α → Text} {read : Json → Except OptionsFault α}
    {x y : Option α} (h : ReadsBack (writeOptional write x) (optional read) y)
    (set : Options → Option α → Options) :
    ∃ v, ReadsAs (writeOptional write x) v ∧
      ∀ acc, (optional read v).map (set acc) = .ok (set acc y) := by
  obtain ⟨v, hv, hread⟩ := h
  refine ⟨v, hv, fun acc => ?_⟩
  rw [hread]
  rfl

theorem exists_set_word {α : Type} {toNat : α → Nat} {ofNat : Nat → α} {most : Nat}
    (hmost : ∀ a, toNat a ≤ most) (hback : ∀ a, ofNat (toNat a) = a) (x : Option α)
    (set : Options → Option α → Options) :
    ∃ v, ReadsAs (writeOptional (fun a => Text.ofNat (toNat a)) x) v ∧
      ∀ acc, (optional (readNat most) v).map (fun n => set acc (n.map ofNat)) =
        .ok (set acc x) := by
  obtain ⟨v, hv, hread⟩ := readsBack_optional rfl (fun a => readsBack_nat (hmost a)) x
  refine ⟨v, hv, fun acc => ?_⟩
  have hsame : ofNat ∘ toNat = id := funext hback
  rw [hread, Except.map, Option.map_map, hsame, Option.map_id, id]

theorem exists_set_word16 (x : Option UInt16) (set : Options → Option UInt16 → Options) :
    ∃ v, ReadsAs (writeOptional (fun n => Text.ofNat n.toNat) x) v ∧
      ∀ acc, (optional (readNat (UInt16.size - 1)) v).map
        (fun n => set acc (n.map UInt16.ofNat)) = .ok (set acc x) :=
  exists_set_word (fun n => Nat.le_pred_of_lt n.toNat_lt_size) (fun _ => UInt16.ofNat_toNat) x set

/-- `setField` copies a field of `written o` from what `fieldText` writes for it. -/
theorem exists_setField_fieldText (o : Options)
    (h : ∀ x ∈ o.feedAfterPrint, x.isFinite = true → single? x.toJson = some x) (field : Field) :
    ∃ v, ReadsAs (o.fieldText field) v ∧
      ∀ acc, setField field v acc = .ok (o.written.copy acc field) := by
  cases field with
  | paperSize =>
    exact exists_set_word (fun n => Nat.le_pred_of_lt n.toNat_lt_size)
      (fun _ => UInt32.ofNat_toNat) o.paperSize fun acc paperSize => { acc with paperSize }
  | dotsPerInch =>
    exact exists_set_word16 o.dotsPerInch fun acc dotsPerInch => { acc with dotsPerInch }
  | cut =>
    exact exists_set (readsBack_self rfl readsBack_cut o.cut) fun acc cut => { acc with cut }
  | disconnectAfterPrint =>
    exact exists_set (readsBack_self rfl readsBack_bool o.disconnectAfterPrint)
      fun acc disconnectAfterPrint => { acc with disconnectAfterPrint }
  | feedAfterPrint =>
    exact exists_set (readsBack_single h) fun acc feedAfterPrint => { acc with feedAfterPrint }
  | openDrawer =>
    exact exists_set (readsBack_self rfl readsBack_bool o.openDrawer)
      fun acc openDrawer => { acc with openDrawer }
  | charset =>
    have hname : ∀ c : Charset, Charset.names.lookup c.name = some c := fun c => by
      cases c <;> decide
    exact exists_set (readsBack_self rfl (fun c => readsBack_name (hname c)) o.charset)
      fun acc charset => { acc with charset }
  | transport =>
    have hname : ∀ t : TransportKind, TransportKind.names.lookup t.name = some t := fun t => by
      cases t <;> decide
    exact exists_set (readsBack_self rfl (fun t => readsBack_name (hname t)) o.transport)
      fun acc transport => { acc with transport }
  | address =>
    exact exists_set (readsBack_self rfl readsBack_text o.address)
      fun acc address => { acc with address }
  | vendor => exact exists_set_word16 o.vendor fun acc vendor => { acc with vendor }
  | product => exact exists_set_word16 o.product fun acc product => { acc with product }
  | host =>
    exact exists_set (readsBack_self rfl readsBack_text o.host) fun acc host => { acc with host }
  | port => exact exists_set_word16 o.port fun acc port => { acc with port }
  | timeout =>
    exact exists_set_word (fun n => Nat.le_pred_of_lt n.toNat_lt_size)
      (fun _ => UInt64.ofNat_toNat) o.timeout fun acc timeout => { acc with timeout }

theorem ofJson_eq_written (o : Options)
    (h : ∀ x ∈ o.feedAfterPrint, x.isFinite = true → single? x.toJson = some x) :
    ofJson o.toJson = .ok o.written := by
  have hfields := exists_setField_fieldText o h
  choose value hreads hset using hfields
  have hname : ∀ field ∈ Field.all, record.field? field.name = some field := by decide
  rw [ofJson, toJson, Record.read_writeObject (by decide) hname (by decide) fun field _ =>
    hreads field]
  have hcopy : (fun acc field => record.set field (value field) acc) =
      fun acc field => (pure (o.written.copy acc field) : Except OptionsFault Options) :=
    funext fun acc => funext fun field => hset field acc
  rw [hcopy, List.foldlM_pure]
  exact congrArg Except.ok (foldl_copy_all o.written)

end Options

namespace Config

/-- `build` does not use a feed that is not finite. -/
theorem build_written (o : Options) : build o.written = build o := by
  have htarget : o.written.target = o.target := rfl
  have hfeed : o.written.feedAfterPrint.filter Single.isFinitePositive =
      o.feedAfterPrint.filter Single.isFinitePositive := by
    show (o.feedAfterPrint.filter Single.isFinite).filter Single.isFinitePositive = _
    rw [Option.filter_filter]
    refine congrArg (o.feedAfterPrint.filter ·) (funext fun x => ?_)
    simp [Single.isFinitePositive]
  rw [build, build, htarget, hfeed]
  rfl

/-- Reading `o.toJson` is `build o`, configuration and error alike, if a finite feed is read back as
the number that it was. -/
theorem ofJson_toJson (o : Options)
    (h : ∀ x ∈ o.feedAfterPrint, x.isFinite = true → single? x.toJson = some x) :
    Config.ofJson o.toJson = build o := by
  rw [Config.ofJson, Options.ofJson_eq_written o h]
  exact build_written o

def escapedOptions : Options where
  paperSize := some 80
  cut := some .bridge
  feedAfterPrint := some (Single.ofDecimal false 25 (-1))
  charset := some .windows1252
  host := some "a\"b\\c\n\u0001é".toList

theorem ofJson_toJson_escaped :
    (∀ x ∈ escapedOptions.feedAfterPrint, x.isFinite = true → single? x.toJson = some x) ∧
      Config.ofJson escapedOptions.toJson = build escapedOptions := by
  have hfeed : ∀ x ∈ escapedOptions.feedAfterPrint, x.isFinite = true →
      single? x.toJson = some x := by
    intro x hx _
    cases Option.some.inj hx
    decide +kernel
  exact ⟨hfeed, ofJson_toJson escapedOptions hfeed⟩

end Config

end ReceiptPrinter

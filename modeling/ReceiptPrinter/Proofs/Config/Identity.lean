import ReceiptPrinter.Config.Basic
import ReceiptPrinter.Proofs.Bitmap.Descriptor
import ReceiptPrinter.Proofs.Except

/-!
# Which printer options identify

Options hold up to three kinds of identity: an address, USB numbers and a host. The transport, or
else the only kind that is there, says which of them counts. `Config.build` gives a configuration
exactly if the identity that the options choose (`Chooses`) is complete and well formed
(`Identifies`); the target is then written in one way (`IsNormal`); and what else the options say
about identities does not matter when the transport is given.
-/

namespace ReceiptPrinter

/-! ### Addresses -/

namespace Target

variable {s : Text}

/-- Whether `s` has the form of a Bluetooth address: seventeen characters, of which the third and
every third after it is a colon and all others are hexadecimal digits. -/
structure HasAddressForm (s : Text) : Prop where
  length : s.length = 17
  chars : ∀ i c, s[i]? = some c →
    if i + 1 ∈ [3, 6, 9, 12, 15] then c = ':' else Text.isHexDigit c = true

def IsPair (s : Text) : Prop :=
  ∃ a b, s = [a, b] ∧ Text.isHexDigit a = true ∧ Text.isHexDigit b = true

theorem isPair_iff : IsPair s ↔ s.length = 2 ∧ ∀ c ∈ s, Text.isHexDigit c = true := by
  constructor
  · rintro ⟨a, b, rfl, ha, hb⟩
    exact ⟨rfl, by simp [ha, hb]⟩
  · rintro ⟨hlength, hdigits⟩
    match s, hlength with
    | [a, b], _ => exact ⟨a, b, rfl, hdigits a (by simp), hdigits b (by simp)⟩

/-- Pairs between `n` colons, piece by piece. -/
structure InPairs (n : Nat) (s : Text) : Prop where
  length : (Text.splitOn ':' s).length = n + 1
  pairs : ∀ piece ∈ Text.splitOn ':' s, IsPair piece

/-- Pairs between `n` colons, place by place. -/
structure InPlaces (n : Nat) (s : Text) : Prop where
  length : s.length = 3 * n + 2
  chars : ∀ i c, s[i]? = some c → if i % 3 = 2 then c = ':' else Text.isHexDigit c = true

theorem colon_notMem_pair {a b : Char} (ha : Text.isHexDigit a = true)
    (hb : Text.isHexDigit b = true) : ':' ∉ [a, b] := by
  have hcolon : Text.isHexDigit ':' = false := by decide
  intro hmem
  rw [List.mem_cons, List.mem_singleton] at hmem
  rcases hmem with rfl | rfl
  · rw [hcolon] at ha
    cases ha
  · rw [hcolon] at hb
    cases hb

theorem inPairs_zero_iff : InPairs 0 s ↔ IsPair s := by
  constructor
  · rintro ⟨hlength, hpairs⟩
    obtain ⟨piece, hpiece⟩ := List.length_eq_one_iff.1 hlength
    have hjoin := Text.join_splitOn ':' s
    rw [hpiece] at hpairs hjoin
    obtain ⟨a, b, rfl, ha, hb⟩ := hpairs piece List.mem_cons_self
    exact ⟨a, b, hjoin.symm, ha, hb⟩
  · rintro ⟨a, b, rfl, ha, hb⟩
    have hsplit : Text.splitOn ':' [a, b] = [[a, b]] :=
      Text.splitOn_of_not_mem (colon_notMem_pair ha hb)
    refine ⟨by rw [hsplit]; rfl, fun piece hmem => ?_⟩
    rw [hsplit, List.mem_singleton] at hmem
    exact ⟨a, b, hmem, ha, hb⟩

theorem inPairs_succ_iff {n : Nat} : InPairs (n + 1) s ↔ ∃ a b t, s = a :: b :: ':' :: t ∧
    Text.isHexDigit a = true ∧ Text.isHexDigit b = true ∧ InPairs n t := by
  constructor
  · rintro ⟨hlength, hpairs⟩
    have hjoin := Text.join_splitOn ':' s
    have hcolon : ∀ p ∈ Text.splitOn ':' s, ':' ∉ p := fun _ => Text.not_mem_of_mem_splitOn
    -- at least two pieces: the first is a pair, the others are those of the rest
    match hsplit : Text.splitOn ':' s with
    | [] => simp [hsplit] at hlength
    | [_] => simp [hsplit] at hlength
    | first :: second :: pieces =>
      rw [hsplit] at hlength hpairs hjoin hcolon
      obtain ⟨a, b, rfl, ha, hb⟩ := hpairs first List.mem_cons_self
      have hrest : Text.splitOn ':' (Text.join ':' (second :: pieces)) = second :: pieces :=
        Text.splitOn_join (List.cons_ne_nil _ _) fun p hp => hcolon p (List.mem_cons_of_mem _ hp)
      refine ⟨a, b, Text.join ':' (second :: pieces), hjoin.symm, ha, hb, ?_, ?_⟩
      · rw [hrest]
        exact Nat.succ.inj hlength
      · rw [hrest]
        exact fun piece hmem => hpairs piece (List.mem_cons_of_mem _ hmem)
  · rintro ⟨a, b, t, rfl, ha, hb, hlength, hpairs⟩
    have hsplit : Text.splitOn ':' (a :: b :: ':' :: t) = [a, b] :: Text.splitOn ':' t :=
      Text.splitOn_append_sep (colon_notMem_pair ha hb) t
    refine ⟨by rw [hsplit, List.length_cons, hlength], ?_⟩
    rw [hsplit, List.forall_mem_cons]
    exact ⟨⟨a, b, rfl, ha, hb⟩, hpairs⟩

theorem inPlaces_zero_iff : InPlaces 0 s ↔ IsPair s := by
  constructor
  · rintro ⟨hlength, hchars⟩
    match s, hlength, hchars with
    | [a, b], _, hchars => exact ⟨a, b, rfl, hchars 0 a rfl, hchars 1 b rfl⟩
  · rintro ⟨a, b, rfl, ha, hb⟩
    refine ⟨rfl, fun i c hc => ?_⟩
    match i, hc with
    | 0, rfl => exact ha
    | 1, rfl => exact hb

theorem inPlaces_succ_iff {n : Nat} : InPlaces (n + 1) s ↔ ∃ a b t, s = a :: b :: ':' :: t ∧
    Text.isHexDigit a = true ∧ Text.isHexDigit b = true ∧ InPlaces n t := by
  constructor
  · rintro ⟨hlength, hchars⟩
    match s, hlength, hchars with
    | a :: b :: colon :: t, hlength, hchars =>
      have hcolon : colon = ':' := hchars 2 colon rfl
      refine ⟨a, b, t, by rw [hcolon], hchars 0 a rfl, hchars 1 b rfl, ?_, fun i c hc => ?_⟩
      · simp only [List.length_cons] at hlength
        omega
      · have hlater := hchars (i + 3) c hc
        rwa [Nat.add_mod_right] at hlater
  · rintro ⟨a, b, t, rfl, ha, hb, hlength, hchars⟩
    refine ⟨by simp only [List.length_cons, hlength]; omega, fun i c hc => ?_⟩
    match i, hc with
    | 0, rfl => exact ha
    | 1, rfl => exact hb
    | 2, rfl => rfl
    | i + 3, hc =>
      rw [Nat.add_mod_right]
      exact hchars i c hc

/-- `InPairs` and `InPlaces` agree, by induction on the number of colons. -/
theorem inPairs_iff_inPlaces (n : Nat) : InPairs n s ↔ InPlaces n s := by
  induction n generalizing s with
  | zero => rw [inPairs_zero_iff, inPlaces_zero_iff]
  | succ n ih =>
    rw [inPairs_succ_iff, inPlaces_succ_iff]
    simp only [ih]

theorem inPlaces_five_iff : InPlaces 5 s ↔ HasAddressForm s := by
  have hplaces : ∀ i < 17, i % 3 = 2 ↔ i + 1 ∈ [3, 6, 9, 12, 15] := by decide
  constructor
  · rintro ⟨hlength, hchars⟩
    refine ⟨hlength, fun i c hc => ?_⟩
    have hi : i < 17 := Nat.lt_of_lt_of_eq (List.getElem?_eq_some_iff.1 hc).1 hlength
    simpa only [hplaces i hi] using hchars i c hc
  · rintro ⟨hlength, hchars⟩
    refine ⟨hlength, fun i c hc => ?_⟩
    have hi : i < 17 := Nat.lt_of_lt_of_eq (List.getElem?_eq_some_iff.1 hc).1 hlength
    simpa only [hplaces i hi] using hchars i c hc

theorem isAddress_iff : isAddress s = true ↔ HasAddressForm s := by
  rw [← inPlaces_five_iff, ← inPairs_iff_inPlaces]
  simp only [isAddress, Bool.and_eq_true, beq_iff_eq, List.all_eq_true, ← isPair_iff]
  exact ⟨fun h => ⟨h.1, h.2⟩, fun h => ⟨h.length, h.pairs⟩⟩

/-- The form of the targets that options give: a radio address in capitals, a host without white
space around it, a port and a timeout that are not zero. -/
def IsNormal : Target → Prop
  | radio address => HasAddressForm address ∧ ∀ c ∈ address, c.isLower = false
  | usb .. => True
  | network host port timeout => host ≠ [] ∧ Text.trim host = host ∧ port ≠ 0 ∧ 0 < timeout

theorem upper_of_isHexDigit : ∀ c, Text.isHexDigit c = true →
    Text.isHexDigit c.toUpper = true ∧ c.toUpper.isLower = false :=
  Text.forall_isHexDigit (by decide)

theorem HasAddressForm.isNormal (h : HasAddressForm s) : (radio (Text.upper s)).IsNormal := by
  have hchars : ∀ i c, s[i]? = some c →
      (if i + 1 ∈ [3, 6, 9, 12, 15] then c.toUpper = ':' else Text.isHexDigit c.toUpper = true) ∧
        c.toUpper.isLower = false := by
    intro i c hc
    have hform := h.chars i c hc
    split at hform
    · next hi =>
      rw [if_pos hi, hform]
      exact ⟨rfl, rfl⟩
    · next hi =>
      rw [if_neg hi]
      exact upper_of_isHexDigit c hform
  refine ⟨⟨(List.length_map _).trans h.length, fun i c hc => ?_⟩, fun c hc => ?_⟩
  · rw [Text.upper, List.getElem?_map] at hc
    obtain ⟨d, hd, rfl⟩ := Option.map_eq_some_iff.1 hc
    exact (hchars i d hd).1
  · obtain ⟨d, hmem, rfl⟩ := List.mem_map.1 hc
    obtain ⟨i, hd⟩ := List.mem_iff_getElem?.1 hmem
    exact (hchars i d hd).2

end Target

/-! ### Identities -/

namespace Options

variable {o : Options} {kind : TransportKind} {target : Target}

/-- Whether `o` gives a field of the identity of a kind. -/
def Gives (o : Options) : TransportKind → Prop
  | .radio => o.address ≠ none
  | .usb => o.vendor ≠ none ∨ o.product ≠ none
  | .network => o.host ≠ none

/-- Whether `kind` counts: it is the transport of `o` or, without one, the only kind that `o` gives.
-/
def Chooses (o : Options) (kind : TransportKind) : Prop :=
  o.transport = some kind ∨ o.transport = none ∧ ∀ k, o.Gives k ↔ k = kind

/-- Which target the identity of a kind stands for, if it is complete and well formed. -/
inductive Identifies (o : Options) : TransportKind → Target → Prop
  | radio (address : Text) (haddress : o.address = some address)
    (hform : Target.HasAddressForm address) : Identifies o .radio (.radio (Text.upper address))
  | usb (vendor product : UInt16) (hvendor : o.vendor = some vendor)
    (hproduct : o.product = some product) : Identifies o .usb (.usb vendor product)
  | network (host : Text) (port : UInt16) (timeout : UInt64) (hhost : o.host = some host)
    (hblank : Text.trim host ≠ []) (hport : o.port = some port ∨ o.port = none ∧ port = 9100)
    (hzero : port ≠ 0) (htimeout : o.timeout = some timeout ∨
      (o.timeout = none ∨ o.timeout = some 0) ∧ timeout = 30) (hpos : 0 < timeout) :
    Identifies o .network (.network (Text.trim host) port timeout)

theorem Identifies.isNormal (h : o.Identifies kind target) : target.IsNormal := by
  cases h with
  | radio address haddress hform => exact hform.isNormal
  | usb => trivial
  | network host port timeout hhost hblank hport hzero htimeout hpos =>
    exact ⟨hblank, Text.trim_trim host, hzero, hpos⟩

/-! ### The kind that counts -/

theorem forall_kind {P : TransportKind → Prop} :
    (∀ k, P k) ↔ P .radio ∧ P .usb ∧ P .network :=
  ⟨fun h => ⟨h .radio, h .usb, h .network⟩, fun h k => by
    cases k with
    | radio => exact h.1
    | usb => exact h.2.1
    | network => exact h.2.2⟩

theorem exists_two_kinds {P : TransportKind → Prop} : (∃ k k', k ≠ k' ∧ P k ∧ P k') ↔
    (P .radio ∧ P .usb) ∨ (P .radio ∧ P .network) ∨ (P .usb ∧ P .network) := by
  constructor
  · rintro ⟨k, k', hne, hk, hk'⟩
    cases k <;> cases k' <;> simp_all
  · rintro (⟨h, h'⟩ | ⟨h, h'⟩ | ⟨h, h'⟩)
    · exact ⟨.radio, .usb, by decide, h, h'⟩
    · exact ⟨.radio, .network, by decide, h, h'⟩
    · exact ⟨.usb, .network, by decide, h, h'⟩

theorem transportKind_of_none (h : o.transport = none) :
    (∀ kind, o.transportKind = .ok kind ↔ ∀ k, o.Gives k ↔ k = kind) ∧
    (o.transportKind = .error .missingIdentity ↔ ∀ k, ¬o.Gives k) ∧
    (o.transportKind = .error .ambiguousIdentity ↔ ∃ k k', k ≠ k' ∧ o.Gives k ∧ o.Gives k') := by
  have hsome : ∀ {α : Type} (x : Option α), x ≠ none ↔ x.isSome = true := fun x => by
    cases x <;> simp
  simp only [transportKind, h, forall_kind, exists_two_kinds, Gives, hsome, ← Bool.or_eq_true]
  cases o.address.isSome <;> cases o.vendor.isSome || o.product.isSome <;> cases o.host.isSome <;>
    simp

theorem transportKind_of_some (h : o.transport = some kind) : o.transportKind = .ok kind := by
  rw [transportKind, h]

theorem transportKind_eq_ok_iff : o.transportKind = .ok kind ↔ o.Chooses kind := by
  unfold Chooses
  cases h : o.transport with
  | none => simp [(transportKind_of_none h).1 kind]
  | some k => simp [transportKind_of_some h]

/-! ### The printer of a kind -/

def targetOf (o : Options) : TransportKind → Except ConfigurationError Target
  | .radio => o.radioTarget
  | .usb => o.usbTarget
  | .network => o.networkTarget

theorem target_eq (o : Options) : o.target = o.transportKind >>= o.targetOf := by
  unfold target
  cases o.transportKind with
  | error e => rfl
  | ok kind => cases kind <;> rfl

theorem radioTarget_eq_ok_iff : o.radioTarget = .ok target ↔ o.Identifies .radio target := by
  unfold radioTarget
  constructor
  · intro h
    split at h
    · cases h
    · next address haddress =>
      split at h
      · next hform =>
        cases h
        exact .radio address haddress (Target.isAddress_iff.1 hform)
      · cases h
  · intro h
    cases h with
    | radio address haddress hform => simp only [haddress, Target.isAddress_iff.2 hform, if_true]

theorem usbTarget_eq_ok_iff : o.usbTarget = .ok target ↔ o.Identifies .usb target := by
  constructor
  · intro h
    match hvendor : o.vendor, hproduct : o.product with
    | some vendor, some product =>
      rw [usbTarget, hvendor, hproduct] at h
      cases h
      exact .usb vendor product hvendor hproduct
    | none, none | none, some product | some vendor, none =>
      rw [usbTarget, hvendor, hproduct] at h
      cases h
  · intro h
    cases h with
    | usb vendor product hvendor hproduct => rw [usbTarget, hvendor, hproduct]

theorem timeout_eq_iff {timeout : UInt64} :
    (o.timeout.filter (0 < ·)).getD defaultTimeout = timeout ↔
      (o.timeout = some timeout ∨ (o.timeout = none ∨ o.timeout = some 0) ∧ timeout = 30) ∧
        0 < timeout := by
  have hdefault : (0 : UInt64) < 30 := by decide
  have hself : ¬(0 : UInt64) < 0 := by decide
  cases h : o.timeout with
  | none =>
    simp only [Option.filter_none, Option.getD_none, defaultTimeout, reduceCtorEq, false_or,
      true_or, true_and]
    exact ⟨fun h => ⟨h.symm, h ▸ hdefault⟩, fun h => h.1.symm⟩
  | some given =>
    by_cases hgiven : given = 0
    · subst hgiven
      simp only [Option.filter_some, hself, decide_false, Bool.false_eq_true, if_false,
        Option.getD_none, defaultTimeout, Option.some.injEq, reduceCtorEq, false_or, true_and]
      constructor
      · rintro rfl
        exact ⟨.inr rfl, hdefault⟩
      · rintro ⟨rfl | rfl, hpos⟩
        · exact absurd hpos hself
        · rfl
    · have hpos : 0 < given := UInt64.pos_iff_ne_zero.2 hgiven
      simp only [Option.filter_some, hpos, decide_true, if_true, Option.getD_some,
        Option.some.injEq, hgiven, reduceCtorEq, false_and, or_false]
      exact ⟨fun h => ⟨h, h ▸ hpos⟩, fun h => h.1⟩

theorem networkTarget_eq_ok_iff : o.networkTarget = .ok target ↔ o.Identifies .network target := by
  have hport : ∀ port, o.port.getD defaultPort = port ↔
      o.port = some port ∨ o.port = none ∧ port = 9100 := fun port => by
    cases o.port with
    | none => simp [defaultPort, eq_comm]
    | some given => simp
  unfold networkTarget
  constructor
  · intro h
    split at h
    · cases h
    · next trimmed htrimmed =>
      obtain ⟨host, hhost, rfl⟩ := Option.map_eq_some_iff.1 htrimmed
      dsimp only at h
      split at h
      · cases h
      · next hblank =>
        split at h
        · cases h
        · next hzero =>
          cases h
          obtain ⟨htimeout, hpos⟩ := timeout_eq_iff.1 rfl
          exact .network host _ _ hhost (by simpa using hblank) ((hport _).1 rfl) hzero htimeout
            hpos
  · intro h
    cases h with
    | network host port timeout hhost hblank hp hzero htimeout hpos =>
      have hempty : (Text.trim host).isEmpty = false := by simpa using hblank
      simp only [hhost, Option.map_some, hempty, Bool.false_eq_true, if_false, (hport port).2 hp,
        hzero, timeout_eq_iff.2 ⟨htimeout, hpos⟩]

theorem targetOf_eq_ok_iff : o.targetOf kind = .ok target ↔ o.Identifies kind target := by
  cases kind with
  | radio => exact radioTarget_eq_ok_iff
  | usb => exact usbTarget_eq_ok_iff
  | network => exact networkTarget_eq_ok_iff

/-- `targetOf` misses an identity exactly if `o` gives no field of it, and is never ambiguous. -/
theorem targetOf_eq_error (o : Options) (kind : TransportKind) :
    (o.targetOf kind = .error .missingIdentity ↔ ¬o.Gives kind) ∧
      o.targetOf kind ≠ .error .ambiguousIdentity := by
  cases kind with
  | radio =>
    unfold targetOf radioTarget Gives
    cases o.address with
    | none => simp
    | some address =>
      dsimp only
      split <;> simp
  | usb =>
    unfold targetOf usbTarget Gives
    cases o.vendor <;> cases o.product <;> simp
  | network =>
    unfold targetOf networkTarget Gives
    cases o.host with
    | none => simp
    | some host =>
      simp only [Option.map_some]
      split
      · simp
      · split <;> simp

theorem target_eq_ok_iff :
    o.target = .ok target ↔ ∃ kind, o.Chooses kind ∧ o.Identifies kind target := by
  simp only [target_eq, bind_eq_ok_iff, transportKind_eq_ok_iff, targetOf_eq_ok_iff]

theorem target_eq_missing_iff : o.target = .error .missingIdentity ↔
    (o.transport = none ∧ ∀ k, ¬o.Gives k) ∨ ∃ k, o.transport = some k ∧ ¬o.Gives k := by
  rw [target_eq, bind_eq_error_iff]
  cases h : o.transport with
  | none =>
    obtain ⟨hok, hmissing, -⟩ := transportKind_of_none h
    -- the only kind that is given cannot be missing
    have hgiven : ¬∃ k, o.transportKind = .ok k ∧ o.targetOf k = .error .missingIdentity := by
      rintro ⟨k, hk, herror⟩
      exact (targetOf_eq_error o k).1.1 herror (((hok k).1 hk k).2 rfl)
    simp [hmissing, hgiven]
  | some k =>
    rw [transportKind_of_some h]
    simp [(targetOf_eq_error o _).1]

theorem target_eq_ambiguous_iff : o.target = .error .ambiguousIdentity ↔
    o.transport = none ∧ ∃ k k', k ≠ k' ∧ o.Gives k ∧ o.Gives k' := by
  rw [target_eq, bind_eq_error_iff]
  have htarget : ¬∃ k, o.transportKind = .ok k ∧ o.targetOf k = .error .ambiguousIdentity := by
    rintro ⟨k, -, herror⟩
    exact (targetOf_eq_error o k).2 herror
  rw [or_iff_left htarget]
  cases h : o.transport with
  | none => simp [(transportKind_of_none h).2.2]
  | some k => simp [transportKind_of_some h]

/-! ### Other identities -/

/-- `o` with the identities of `other`, but for that of `kind`. -/
def withOthers (o : Options) (kind : TransportKind) (other : Options) : Options :=
  match kind with
  | .radio => { o with
      vendor := other.vendor, product := other.product
      host := other.host, port := other.port, timeout := other.timeout }
  | .usb => { o with
      address := other.address
      host := other.host, port := other.port, timeout := other.timeout }
  | .network => { o with
      address := other.address, vendor := other.vendor, product := other.product }

theorem target_withOthers (h : o.transport = some kind) (other : Options) :
    (o.withOthers kind other).target = o.target := by
  have htransport : (o.withOthers kind other).transport = some kind := by
    cases kind <;> exact h
  have htarget : (o.withOthers kind other).targetOf kind = o.targetOf kind := by
    cases kind <;> rfl
  rw [target_eq, target_eq, transportKind_of_some htransport, transportKind_of_some h, ok_bind,
    ok_bind, htarget]

end Options

/-! ### Configurations -/

namespace Config

open Options

theorem build_eq_ok {o : Options} {c : Config} (h : build o = .ok c) : o.target = .ok c.target := by
  obtain ⟨target, htarget, hc⟩ := bind_eq_ok_iff.1 h
  cases hc
  exact htarget

theorem exists_build_iff {o : Options} :
    (∃ c, build o = .ok c) ↔ ∃ target, o.target = .ok target := by
  constructor
  · rintro ⟨c, hc⟩
    exact ⟨_, build_eq_ok hc⟩
  · rintro ⟨target, htarget⟩
    exact ⟨_, bind_eq_ok_iff.2 ⟨target, htarget, rfl⟩⟩

theorem build_eq_error_iff {o : Options} {e : ConfigurationError} :
    build o = .error e ↔ o.target = .error e := by
  constructor
  · intro h
    rcases bind_eq_error_iff.1 h with htarget | ⟨target, -, hc⟩
    · exact htarget
    · cases hc
  · intro h
    exact bind_eq_error_iff.2 (.inl h)

theorem build_withOthers {o : Options} {kind : TransportKind} (h : o.transport = some kind)
    (other : Options) : build (o.withOthers kind other) = build o := by
  rw [build, build, target_withOthers h]
  cases kind <;> rfl

/-- `build o` succeeds exactly if the identity that `o` chooses stands for a target, which is then
the target of the configuration and `IsNormal`. It is `missingIdentity` if none is given, or not
that of the transport, and `ambiguousIdentity` if there is no transport and two are given. With a
transport, the other identities change neither the configuration nor the error. -/
theorem build_of_identity (o : Options) :
    ((∃ c, build o = .ok c) ↔ ∃ kind target, o.Chooses kind ∧ o.Identifies kind target) ∧
    (∀ c, build o = .ok c →
      ∃ kind, o.Chooses kind ∧ o.Identifies kind c.target ∧ c.target.IsNormal) ∧
    (build o = .error .missingIdentity ↔
      (o.transport = none ∧ ∀ k, ¬o.Gives k) ∨ ∃ k, o.transport = some k ∧ ¬o.Gives k) ∧
    (build o = .error .ambiguousIdentity ↔
      o.transport = none ∧ ∃ k k', k ≠ k' ∧ o.Gives k ∧ o.Gives k') ∧
    ∀ kind other, o.transport = some kind → build (o.withOthers kind other) = build o := by
  refine ⟨?_, fun c h => ?_, ?_, ?_, fun kind other h => build_withOthers h other⟩
  · rw [exists_build_iff, exists_comm]
    exact exists_congr fun target => target_eq_ok_iff
  · obtain ⟨kind, hchooses, hidentifies⟩ := target_eq_ok_iff.1 (build_eq_ok h)
    exact ⟨kind, hchooses, hidentifies, hidentifies.isNormal⟩
  · rw [build_eq_error_iff, target_eq_missing_iff]
  · rw [build_eq_error_iff, target_eq_ambiguous_iff]

/-- A port of zero does not matter to a printer that is reached by radio. -/
example : (build {
    transport := some .radio
    address := some "aa:bb:cc:dd:ee:0f".toList
    port := some 0 }).toOption.map target = some (.radio "AA:BB:CC:DD:EE:0F".toList) := by
  decide

end Config

end ReceiptPrinter

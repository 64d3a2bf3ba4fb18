import ReceiptPrinter.Device.Broker
import ReceiptPrinter.Proofs.Config.Identity
import ReceiptPrinter.Proofs.Text.Hexadecimal

/-!
# Whom the broker answers for

The broker looks for an address in whole lines of its table, in capital letters, and reads the
numbers of USB printers as texts. In a table of documented lines (`BoundLine`) an address is found
in no other place than its own, so that the first line with the address decides; a USB printer is
granted only if its texts write the two numbers; and what a request comes to depends on how the node
opens (`AnswersBy`).
-/

namespace ReceiptPrinter

/-! ### Addresses -/

namespace Target

variable {address : Text}

theorem HasAddressForm.getElem?_eq_colon_iff (h : HasAddressForm address) {i : Nat} :
    address[i]? = some ':' ↔ i + 1 ∈ [3, 6, 9, 12, 15] := by
  constructor
  · intro hi
    by_contra hplace
    have hdigit := h.chars i ':' hi
    rw [if_neg hplace] at hdigit
    exact absurd hdigit (by decide)
  · intro hplace
    have hlt : i < address.length := by
      simp only [h.length, List.mem_cons, List.not_mem_nil, or_false] at hplace ⊢
      omega
    have hchar := h.chars i _ (List.getElem?_eq_getElem hlt)
    rw [if_pos hplace] at hchar
    rw [List.getElem?_eq_getElem hlt, hchar]

theorem HasAddressForm.all_isAscii (h : HasAddressForm address) :
    address.all Text.isAscii = true := by
  rw [List.all_eq_true]
  intro c hc
  obtain ⟨i, hi⟩ := List.mem_iff_getElem?.1 hc
  have hchar := h.chars i c hi
  split at hchar
  · rw [hchar]
    rfl
  · have hbounds := Text.bounds_of_isHexDigit hchar
    rw [Text.isAscii, decide_eq_true_iff]
    omega

end Target

/-! ### Lines of the table -/

/-- A line of the table in its documented form: the name of a device, its address, and more. -/
structure BoundLine where
  name : Text
  address : Text
  more : Text
  name_plain : ':' ∉ name ∧ ' ' ∉ name
  address_form : Target.HasAddressForm address
  more_plain : ':' ∉ more

namespace BoundLine

variable {line : BoundLine} {address : Text}

def text (line : BoundLine) : Text :=
  line.name ++ ':' :: ' ' :: (line.address ++ ' ' :: line.more)

def IsFor (line : BoundLine) (address : Text) : Prop := Text.lower line.address = Text.lower address

instance : Decidable (line.IsFor address) := instDecidableEqList _ _

def lead (line : BoundLine) : Text := line.name ++ [':', ' ']

theorem text_eq (line : BoundLine) : line.text = line.lead ++ (line.address ++ ' ' :: line.more) :=
  (List.append_assoc line.name [':', ' '] _).symm

@[simp] theorem length_lead (line : BoundLine) : line.lead.length = line.name.length + 2 :=
  List.length_append

theorem boundName_text (line : BoundLine) : Broker.boundName line.text = Text.trim line.name := by
  have hname : line.text.takeWhile (· ≠ ':') = line.name := by
    rw [text, List.takeWhile_append_of_pos fun c hc => ?_]
    · simp
    · have hne : c ≠ ':' := ne_of_mem_of_not_mem hc line.name_plain.1
      simpa using hne
  rw [Broker.boundName, hname]

/-- The colons of a line stand after the name and in the address. -/
theorem place_of_colon {i : Nat} (h : line.text[i]? = some ':') :
    i ∈ [0, 4, 7, 10, 13, 16].map (line.name.length + ·) := by
  rw [text, List.getElem?_append] at h
  split at h
  · exact absurd (List.mem_of_getElem? h) line.name_plain.1
  · next hname =>
    obtain ⟨j, rfl⟩ := Nat.exists_eq_add_of_le (Nat.le_of_not_lt hname)
    rw [Nat.add_sub_cancel_left] at h
    refine List.mem_map_of_mem ?_
    match j, h with
    | 0, _ => exact List.mem_cons_self
    | k + 2, h =>
      rw [List.getElem?_cons_succ, List.getElem?_cons_succ, List.getElem?_append] at h
      split at h
      · have hplace := line.address_form.getElem?_eq_colon_iff.1 h
        simp only [List.mem_cons, List.not_mem_nil, or_false] at hplace ⊢
        omega
      · next haddress =>
        obtain ⟨m, rfl⟩ := Nat.exists_eq_add_of_le (Nat.le_of_not_lt haddress)
        rw [Nat.add_sub_cancel_left] at h
        match m, h with
        | m + 1, h =>
          have hmore : line.more[m]? = some ':' := h
          exact absurd (List.mem_of_getElem? hmore) line.more_plain

/-- An address stands in a line only where the line has its own: the colons of both have to meet. -/
theorem lower_address_of_occurs {before after : Text} (haddress : Target.HasAddressForm address)
    (h : Text.lower line.text = before ++ (Text.lower address ++ after)) :
    before.length = line.name.length + 2 ∧ line.IsFor address := by
  have hplace : ∀ i, i + 1 ∈ [3, 6, 9, 12, 15] →
      before.length + i ∈ [0, 4, 7, 10, 13, 16].map (line.name.length + ·) := by
    intro i hi
    have hcolon := haddress.getElem?_eq_colon_iff.2 hi
    have hlt : i < (Text.lower address).length := by
      rw [Text.length_lower]
      exact (List.getElem?_eq_some_iff.1 hcolon).1
    have hat : (Text.lower line.text)[before.length + i]? = some ':' := by
      rw [h, List.getElem?_append_right (Nat.le_add_right _ _), Nat.add_sub_cancel_left,
        List.getElem?_append_left hlt, Text.lower, List.getElem?_map, hcolon]
      rfl
    rw [Text.lower, List.getElem?_map, Option.map_eq_some_iff] at hat
    obtain ⟨c, hc, hlower⟩ := hat
    rw [Text.eq_of_toLower_eq hlower (by decide)] at hc
    exact place_of_colon hc
  have hlength : before.length = line.name.length + 2 := by
    have hfirst := hplace 2 (by decide)
    have hsecond := hplace 5 (by decide)
    have hlast := hplace 14 (by decide)
    simp only [List.map_cons, List.map_nil, List.mem_cons, List.not_mem_nil,
      or_false] at hfirst hsecond hlast
    omega
  refine ⟨hlength, ?_⟩
  rw [text_eq, Text.lower_append, Text.lower_append] at h
  have hrest := (List.append_inj h (by rw [Text.length_lower, length_lead, hlength])).2
  refine (List.append_inj hrest ?_).1
  rw [Text.length_lower, Text.length_lower, line.address_form.length, haddress.length]

/-- `capitals` moves no address: where its capitals stand, the line has it. -/
theorem isFor_of_occurs {before after : Text} (haddress : Target.HasAddressForm address)
    (hascii : line.text.all Text.isAscii = true)
    (h : Text.capitals line.text = before ++ Text.capitals address ++ after) :
    before.length = line.name.length + 2 ∧ line.IsFor address := by
  have hplain := haddress.all_isAscii
  rw [Text.capitals_of_ascii _ hascii, Text.capitals_of_ascii _ hplain] at h
  have hlower := congrArg Text.lower h
  rw [Text.lower_upper hascii, Text.lower_append, Text.lower_append, Text.lower_upper hplain,
    List.append_assoc] at hlower
  rw [← Text.length_lower before]
  exact lower_address_of_occurs haddress hlower

/-- The search of `radioPath` finds the line for exactly the address that it has. -/
theorem contains_capitals_iff (haddress : Target.HasAddressForm address)
    (hascii : line.text.all Text.isAscii = true) :
    Text.contains (Text.capitals address) (Text.capitals line.text) = true ↔
      line.IsFor address := by
  rw [Text.contains_iff]
  constructor
  · rintro ⟨before, after, h⟩
    exact (isFor_of_occurs haddress hascii h.symm).2
  · intro h
    have hplain := haddress.all_isAscii
    have hupper : Text.upper line.address = Text.upper address := by
      rw [← Text.upper_lower line.address_form.all_isAscii, h, Text.upper_lower hplain]
    rw [Text.capitals_of_ascii _ hascii, Text.capitals_of_ascii _ hplain, ← hupper]
    refine List.IsInfix.map _ ?_
    rw [text_eq]
    exact ((List.prefix_append _ _).isInfix).trans (List.suffix_append _ _).isInfix

end BoundLine

/-! ### USB printers -/

namespace UsbEntry

variable {entry : UsbEntry} {vendor product : UInt16}

/-- Whether `entry` is for the printer `vendor:product`: its name begins with `lp`, and its two
texts, without the white space around them, write the numbers in hexadecimal. -/
structure IsFor (entry : UsbEntry) (vendor product : UInt16) : Prop where
  name : "lp".toList <+: entry.name
  vendor : ∃ text, entry.vendor = some text ∧ Text.IsHexOf (Text.trim text) vendor.toNat
  product : ∃ text, entry.product = some text ∧ Text.IsHexOf (Text.trim text) product.toNat

theorem number?_eq_some_iff {field : Option Text} {n : UInt16} : number? field = some n ↔
    ∃ text, field = some text ∧ Text.IsHexOf (Text.trim text) n.toNat := by
  unfold number?
  rw [Option.bind_eq_some_iff]
  exact exists_congr fun text => and_congr_right fun _ => Text.hexWord?_eq_some_iff

theorem isPrinter_iff : entry.isPrinter vendor product = true ↔ entry.IsFor vendor product := by
  simp only [isPrinter, Bool.and_eq_true, List.isPrefixOf_iff_prefix, beq_iff_eq,
    number?_eq_some_iff]
  exact ⟨fun ⟨⟨hname, hvendor⟩, hproduct⟩ => ⟨hname, hvendor, hproduct⟩,
    fun h => ⟨⟨h.name, h.vendor⟩, h.product⟩⟩

end UsbEntry

/-! ### Answers -/

namespace Broker

variable {b : Broker} {target : Target} {path : Text}

/-- The answer to a request for access to `target`. -/
def answer (b : Broker) (target : Target) : Except AccessDenied Text :=
  (b.requestAccess target).mapError AccessFault.denied

def Refuses (b : Broker) (target : Target) : Prop :=
  ∃ reason, b.answer target = .error (.refused reason)

def FindsNone (b : Broker) (target : Target) : Prop :=
  ∃ reason, b.answer target = .error (.notFound reason)

/-- Whether a request is answered by opening `path` for writing: `path` is granted if the node
opens, a node that is missing is not found, and after any other fault access is refused. -/
structure AnswersBy (b : Broker) (target : Target) (path : Text) : Prop where
  opens : ∀ place, b.nodes.openPath path = .ok place → b.answer target = .ok path
  missing : ∀ fault, b.nodes.openPath path = .error fault → fault.kind = .notFound →
    b.FindsNone target
  closed : ∀ fault, b.nodes.openPath path = .error fault → fault.kind ≠ .notFound →
    b.Refuses target

theorem answer_of_opens {place : Place} (h : b.nodePath target = .ok path)
    (hopen : b.nodes.openPath path = .ok place) : b.answer target = .ok path := by
  rw [answer, requestAccess, h, ok_bind, hopen]
  rfl

theorem answer_of_closed {fault : OpenFault} (h : b.nodePath target = .ok path)
    (hopen : b.nodes.openPath path = .error fault) :
    b.answer target = .error (AccessFault.closed path fault).denied := by
  rw [answer, requestAccess, h, ok_bind, hopen]
  rfl

theorem answersBy_of_nodePath (h : b.nodePath target = .ok path) : b.AnswersBy target path := by
  refine ⟨fun place hopen => answer_of_opens h hopen, fun fault hopen hkind => ?_,
    fun fault hopen hkind => ?_⟩
  · rw [FindsNone, answer_of_closed h hopen, AccessFault.denied]
    simp only [hkind]
    exact ⟨_, rfl⟩
  · rw [Refuses, answer_of_closed h hopen, AccessFault.denied]
    split
    · exact ⟨_, rfl⟩
    · next heq => exact absurd heq hkind
    · exact ⟨_, rfl⟩

theorem answer_of_nodePath_error {fault : AccessFault} (h : b.nodePath target = .error fault) :
    b.answer target = .error fault.denied := by
  rw [answer, requestAccess, h]
  rfl

theorem nodePath_of_answer (h : b.answer target = .ok path) : b.nodePath target = .ok path := by
  cases hpath : b.nodePath target with
  | error fault =>
    rw [answer_of_nodePath_error hpath] at h
    cases h
  | ok found =>
    cases hopen : b.nodes.openPath found with
    | ok place =>
      rw [answer_of_opens hpath hopen] at h
      rw [Except.ok.inj h]
    | error fault =>
      rw [answer_of_closed hpath hopen] at h
      cases h

/-! ### The first line with an address -/

section Radio

variable {table address : Text} {lines : List BoundLine}

theorem all_isAscii_of_mem_tableLines {line : Text} (hascii : table.all Text.isAscii = true)
    (h : line ∈ tableLines table) : line.all Text.isAscii = true := by
  have hpiece : ∃ piece ∈ Text.splitOn '\n' table, line <+: piece := by
    rw [tableLines, List.mem_append] at h
    rcases h with h | h
    · obtain ⟨piece, hmem, rfl⟩ := List.mem_map.1 h
      exact ⟨piece, List.mem_of_mem_dropLast hmem, Text.chomp_isPrefix piece⟩
    · obtain ⟨hlast, -⟩ := List.mem_filter.1 h
      exact ⟨line, List.mem_of_mem_getLast? (Option.mem_toList.1 hlast), List.prefix_rfl⟩
  obtain ⟨piece, hmem, hline⟩ := hpiece
  rw [List.all_eq_true] at hascii ⊢
  exact fun c hc => hascii c ((Text.infix_of_mem_splitOn hmem).subset (hline.subset hc))

variable (htable : b.radioTable = some table) (hascii : table.all Text.isAscii = true)
  (hlines : tableLines table = lines.map BoundLine.text)
  (haddress : Target.HasAddressForm address)

include htable hascii hlines haddress

/-- `radioPath` on a table of documented lines takes the first one with the address (`IsFor`). -/
theorem radioPath_eq : b.radioPath address =
    match lines.find? fun line => decide (line.IsFor address) with
    | some line => .ok (joinPath b.paths.radioFolder (Text.trim line.name))
    | none => .error (.unbound (Text.capitals address)) := by
  have hfind : (tableLines table).find? (fun line =>
        Text.contains (Text.capitals address) (Text.capitals line)) =
      (lines.find? fun line => decide (line.IsFor address)).map BoundLine.text := by
    rw [hlines, List.find?_map]
    congr 1
    refine List.find?_congr fun line hline => ?_
    have hline : line.text ∈ tableLines table := hlines ▸ List.mem_map_of_mem hline
    rw [Bool.eq_iff_iff, decide_eq_true_iff]
    exact BoundLine.contains_capitals_iff haddress (all_isAscii_of_mem_tableLines hascii hline)
  simp only [radioPath, htable, hfind]
  cases lines.find? fun line => decide (line.IsFor address) with
  | none => rfl
  | some line =>
    simp only [Option.map_some, BoundLine.boundName_text]

theorem answersBy_radio {before after : List BoundLine} {line : BoundLine}
    (hsplit : lines = before ++ line :: after) (hbefore : ∀ l ∈ before, ¬l.IsFor address)
    (hline : line.IsFor address) :
    b.AnswersBy (.radio address) (joinPath b.paths.radioFolder (Text.trim line.name)) := by
  have hfind : lines.find? (fun line => decide (line.IsFor address)) = some line := by
    rw [List.find?_eq_some_iff_append]
    refine ⟨decide_eq_true hline, before, after, hsplit, fun l hl => ?_⟩
    rw [decide_eq_false (hbefore l hl)]
    rfl
  refine answersBy_of_nodePath ?_
  rw [nodePath, radioPath_eq htable hascii hlines haddress, hfind]

theorem refuses_radio (hnone : ∀ l ∈ lines, ¬l.IsFor address) :
    b.Refuses (.radio address) := by
  have hfind : lines.find? (fun line => decide (line.IsFor address)) = none := by
    rw [List.find?_eq_none]
    intro l hl
    rw [decide_eq_true_iff]
    exact hnone l hl
  have hpath : b.nodePath (.radio address) = .error (.unbound (Text.capitals address)) := by
    rw [nodePath, radioPath_eq htable hascii hlines haddress, hfind]
  exact ⟨_, answer_of_nodePath_error hpath⟩

end Radio

/-! ### The first entry with two numbers -/

section Usb

variable {vendor product : UInt16}

theorem usbPath_eq_ok_iff : b.usbPath vendor product = .ok path ↔
    ∃ before entry after, b.usbListing = some (before ++ entry :: after) ∧
      (∀ e ∈ before, ¬e.IsFor vendor product) ∧ entry.IsFor vendor product ∧
      path = joinPath b.paths.usbFolder entry.name := by
  simp only [← UsbEntry.isPrinter_iff]
  unfold usbPath
  cases b.usbListing with
  | none => simp
  | some entries =>
    dsimp only
    constructor
    · intro h
      split at h
      · next entry hfind =>
        cases h
        obtain ⟨hentry, before, after, rfl, hbefore⟩ := List.find?_eq_some_iff_append.1 hfind
        exact ⟨before, entry, after, rfl, fun e he => by simpa using hbefore e he, hentry, rfl⟩
      · cases h
    · rintro ⟨before, entry, after, hentries, hbefore, hentry, rfl⟩
      have hfind : entries.find? (fun entry => entry.isPrinter vendor product) = some entry := by
        rw [List.find?_eq_some_iff_append]
        exact ⟨hentry, before, after, Option.some.inj hentries,
          fun e he => by simpa using hbefore e he⟩
      rw [hfind]

theorem findsNone_usb (h : ∀ entry ∈ b.usbListing.getD [], ¬entry.IsFor vendor product) :
    b.FindsNone (.usb vendor product) := by
  cases hlisting : b.usbListing with
  | none =>
    have hpath : b.nodePath (.usb vendor product) = .error (.noListing b.paths.usbListing) := by
      rw [nodePath, usbPath, hlisting]
    exact ⟨_, answer_of_nodePath_error hpath⟩
  | some entries =>
    have hfind : entries.find? (fun entry => entry.isPrinter vendor product) = none := by
      rw [List.find?_eq_none]
      intro entry hentry
      rw [UsbEntry.isPrinter_iff]
      rw [hlisting] at h
      exact h entry hentry
    have hpath : b.nodePath (.usb vendor product) = .error (.noPrinter vendor product) := by
      simp only [nodePath, usbPath, hlisting, hfind]
    exact ⟨_, answer_of_nodePath_error hpath⟩

end Usb

/-! ### All requests -/

/-- What `answer` gives. In an ASCII table of documented lines the first line with a valid address
decides by its node, and without one access is refused; the capitals of the address stand in no line
but at its own address. A USB grant names a listed entry with the two numbers, the first one decides
by its node, and without one it is not found. A node that is found is answered for by opening it,
and network printers are refused. -/
theorem answer_of_shown (b : Broker) :
    (∀ table, b.radioTable = some table → table.all Text.isAscii = true →
      ∀ lines, tableLines table = lines.map BoundLine.text →
      ∀ address, Target.isAddress address = true →
        (∀ before line after, lines = before ++ line :: after →
          (∀ l ∈ before, ¬l.IsFor address) → line.IsFor address →
          b.AnswersBy (.radio address) (joinPath b.paths.radioFolder (Text.trim line.name))) ∧
        ((∀ l ∈ lines, ¬l.IsFor address) → b.Refuses (.radio address)) ∧
        ∀ l ∈ lines, ∀ before after,
          Text.capitals l.text = before ++ Text.capitals address ++ after →
          before.length = l.name.length + 2 ∧ l.IsFor address) ∧
    (b.radioTable = none → ∀ address, b.Refuses (.radio address)) ∧
    (∀ vendor product,
      (∀ path, b.answer (.usb vendor product) = .ok path →
        ∃ entry ∈ b.usbListing.getD [], entry.IsFor vendor product ∧
          path = joinPath b.paths.usbFolder entry.name) ∧
      (∀ before entry after, b.usbListing = some (before ++ entry :: after) →
        (∀ e ∈ before, ¬e.IsFor vendor product) → entry.IsFor vendor product →
        b.AnswersBy (.usb vendor product) (joinPath b.paths.usbFolder entry.name)) ∧
      ((∀ entry ∈ b.usbListing.getD [], ¬entry.IsFor vendor product) →
        b.FindsNone (.usb vendor product))) ∧
    (∀ target path, b.nodePath target = .ok path → b.AnswersBy target path) ∧
    ∀ host port timeout, b.Refuses (.network host port timeout) := by
  refine ⟨fun table htable hascii lines hlines address haddress => ?_, fun htable address => ?_,
    fun vendor product => ⟨fun path h => ?_, fun before entry after hlisting hbefore hentry => ?_,
      findsNone_usb⟩, fun target path => answersBy_of_nodePath, fun host port timeout => ?_⟩
  · have hform := Target.isAddress_iff.1 haddress
    refine ⟨fun before line after => answersBy_radio htable hascii hlines hform,
      refuses_radio htable hascii hlines hform, fun l hl before after => ?_⟩
    have hmem : l.text ∈ tableLines table := hlines ▸ List.mem_map_of_mem hl
    exact BoundLine.isFor_of_occurs hform (all_isAscii_of_mem_tableLines hascii hmem)
  · have hpath : b.nodePath (.radio address) = .error (.noTable b.paths.radioTable) := by
      rw [nodePath, radioPath, htable]
    exact ⟨_, answer_of_nodePath_error hpath⟩
  · obtain ⟨before, entry, after, hlisting, -, hentry, rfl⟩ :=
      usbPath_eq_ok_iff.1 (nodePath_of_answer h)
    refine ⟨entry, ?_, hentry, rfl⟩
    rw [hlisting, Option.getD_some]
    exact List.mem_append_cons_self
  · exact answersBy_of_nodePath
      (usbPath_eq_ok_iff.2 ⟨before, entry, after, hlisting, hbefore, hentry, rfl⟩)
  · have hpath : b.nodePath (.network host port timeout) = .error .networkPrinter := rfl
    exact ⟨_, answer_of_nodePath_error hpath⟩

/-- Two bound devices. -/
def twoBound : List BoundLine :=
  [{ name := "rfcomm0".toList
     address := "00:11:22:33:44:55".toList
     more := "channel 1 clean".toList
     name_plain := by decide
     address_form := Target.isAddress_iff.1 (by decide)
     more_plain := by decide },
   { name := "rfcomm1".toList
     address := "86:67:7A:B9:31:2C".toList
     more := "channel 1 connected".toList
     name_plain := by decide
     address_form := Target.isAddress_iff.1 (by decide)
     more_plain := by decide }]

def twoBoundHost : Broker where
  radioTable := some <|
    ("rfcomm0: 00:11:22:33:44:55 channel 1 clean\n" ++
      "rfcomm1: 86:67:7A:B9:31:2C channel 1 connected\n").toList
  usbListing := some
    [{ name := "lp0".toList, vendor := some "04b8\n".toList, product := some "0202\n".toList }]
  nodes :=
    { nodes := [(["dev".toList, "rfcomm0".toList],
          .closed (.system ⟨.permissionDenied, "Permission denied"⟩ 13)),
        (["dev".toList, "rfcomm1".toList], .serial [])] }

theorem answer_of_shown_twoBound :
    twoBoundHost.Refuses (.radio "00:11:22:33:44:55".toList) ∧
      twoBoundHost.answer (.radio "86:67:7a:b9:31:2c".toList) = .ok "/dev/rfcomm1".toList ∧
      twoBoundHost.Refuses (.radio "AA:BB:CC:DD:EE:FF".toList) ∧
      twoBoundHost.FindsNone (.usb 0x4B8 0x202) ∧ twoBoundHost.FindsNone (.usb 0x4B8 0x203) := by
  obtain ⟨hradio, -, husb, -, -⟩ := answer_of_shown twoBoundHost
  have hradio := hradio _ rfl (by decide +kernel) twoBound (by decide +kernel)
  obtain ⟨hfirst, -, -⟩ := hradio "00:11:22:33:44:55".toList (by decide)
  obtain ⟨hsecond, -, -⟩ := hradio "86:67:7a:b9:31:2c".toList (by decide)
  obtain ⟨-, hunbound, -⟩ := hradio "AA:BB:CC:DD:EE:FF".toList (by decide)
  obtain ⟨-, hlisted, -⟩ := husb 0x4B8 0x202
  obtain ⟨-, -, hunlisted⟩ := husb 0x4B8 0x203
  refine ⟨?_, ?_, hunbound (by decide), ?_, hunlisted ?_⟩
  · exact (hfirst [] _ _ rfl (by decide) (by decide)).closed
      (.system ⟨.permissionDenied, "Permission denied"⟩ 13) (by decide +kernel) (by decide)
  · exact (hsecond [_] _ [] rfl (by decide) (by decide)).opens
      ["dev".toList, "rfcomm1".toList] (by decide +kernel)
  · refine (hlisted [] _ [] rfl (by simp) ?_).missing .missing (by decide +kernel) rfl
    rw [← UsbEntry.isPrinter_iff]
    decide
  · simp only [← UsbEntry.isPrinter_iff]
    decide

end Broker

end ReceiptPrinter

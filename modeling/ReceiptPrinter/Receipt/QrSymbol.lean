import ReceiptPrinter.Text.Basic

/-!
# Sizes of QR symbols

The bytes of a content are cut into segments of one mode each, neighbouring segments are joined
where that takes no more bits, and the symbol is the smallest one of correction level M that holds
the bits. A version of `v` has `17 + 4 v` modules on a side.
-/

namespace ReceiptPrinter.QrSymbol

/-- How a segment writes its bytes. -/
inductive Mode where
  | numeric
  | alphanumeric
  | byte
  | kanji
  deriving DecidableEq, Repr

/-- Classes of bytes, and the end of the content. -/
inductive ByteClass where
  | end
  | symbol
  | numeric
  | alpha
  | hi1
  | hi2
  | hi3
  | lo1
  | lo2
  | byte
  deriving DecidableEq, Repr

def ByteClass.of (b : UInt8) : ByteClass :=
  let n := b.toNat
  if n = 0x20 ∨ n = 0x24 ∨ n = 0x25 ∨ n = 0x2A ∨ n = 0x2B ∨ (0x2D ≤ n ∧ n ≤ 0x2F) ∨ n = 0x3A then
    .symbol
  else if 0x30 ≤ n ∧ n ≤ 0x39 then .numeric
  else if 0x41 ≤ n ∧ n ≤ 0x5A then .alpha
  else if 0x81 ≤ n ∧ n ≤ 0x9F then .hi1
  else if 0xE0 ≤ n ∧ n ≤ 0xEA then .hi2
  else if n = 0xEB then .hi3
  else if n = 0x40 ∨ (0x5B ≤ n ∧ n ≤ 0x7E) ∨ n = 0x80 ∨ (0xA0 ≤ n ∧ n ≤ 0xBF) then .lo1
  else if (0xC0 ≤ n ∧ n ≤ 0xDF) ∨ (0xEC ≤ n ∧ n ≤ 0xFC) then .lo2
  else .byte

/-- Where the cutter stands: the mode of the segment and, for Kanji, how much of a pair is read. -/
inductive State where
  | start
  | numeric
  | alphanumeric
  | byte
  /-- After the first byte of a pair that may be Kanji. -/
  | lead
  /-- After a first byte with fewer second bytes. -/
  | narrowLead
  /-- After a whole pair. -/
  | kanji
  deriving DecidableEq, Repr

/-- A stretch of bytes of one mode. -/
structure Segment where
  mode : Mode
  length : Nat
  deriving DecidableEq, Repr

def select : ByteClass → State
  | .end => .start
  | .symbol | .alpha => .alphanumeric
  | .numeric => .numeric
  | .hi1 | .hi2 => .lead
  | .hi3 => .narrowLead
  | .lo1 | .lo2 | .byte => .byte

/-- What happens before a byte. -/
inductive Cut where
  | none
  /-- The segment ends here. -/
  | here (mode : Mode)
  /-- The pairs before the last byte end as Kanji, and that byte stands alone. -/
  | split
  deriving DecidableEq, Repr

/-- What is cut before the byte `next`, and the state after it. -/
def step (state : State) (next : ByteClass) : Cut × State :=
  match state with
  | .start => (.none, select next)
  | .numeric => (if next = .numeric then .none else .here .numeric, select next)
  | .alphanumeric =>
    (if select next = .alphanumeric then .none else .here .alphanumeric, select next)
  | .byte => (if select next = .byte then .none else .here .byte, select next)
  | .lead =>
    match next with
    | .alpha | .hi1 | .hi2 | .hi3 | .lo1 | .lo2 => (.none, .kanji)
    | _ => (.split, select next)
  | .narrowLead =>
    match next with
    | .alpha | .hi1 | .lo1 => (.none, .kanji)
    | _ => (.split, select next)
  | .kanji =>
    match next with
    | .hi1 | .hi2 | .hi3 => (.none, select next)
    | _ => (.here .kanji, select next)

/-- The segments of a content; `held` bytes are not yet in a segment. -/
def cut (state : State) (held : Nat) : List ByteClass → List Segment
  | [] => []
  | next :: rest =>
    let (before, state) := step state next
    match before with
    | .none => cut state (held + 1) rest
    | .here mode => ⟨mode, held⟩ :: cut state 1 rest
    | .split =>
      (if 1 < held then [⟨.kanji, held - 1⟩] else []) ++ ⟨.byte, 1⟩ :: cut state 1 rest

def segments (bytes : List UInt8) : List Segment :=
  cut .start 0 (bytes.map ByteClass.of ++ [.end])

/-- Classes of versions that write lengths with the same number of bits. -/
inductive VersionClass where
  | upTo9
  | upTo26
  | upTo40
  deriving DecidableEq, Repr

def VersionClass.most : VersionClass → Nat
  | upTo9 => 9
  | upTo26 => 26
  | upTo40 => 40

def lengthBits : VersionClass → Mode → Nat
  | .upTo9, .numeric => 10
  | .upTo9, .alphanumeric => 9
  | .upTo9, .byte => 8
  | .upTo9, .kanji => 8
  | .upTo26, .numeric => 12
  | .upTo26, .alphanumeric => 11
  | .upTo26, .byte => 16
  | .upTo26, .kanji => 10
  | .upTo40, .numeric => 14
  | .upTo40, .alphanumeric => 13
  | .upTo40, .byte => 16
  | .upTo40, .kanji => 12

def dataBits (s : Segment) : Nat :=
  match s.mode with
  | .numeric => (10 * s.length + 2) / 3
  | .alphanumeric => (11 * s.length + 1) / 2
  | .byte => 8 * s.length
  | .kanji => 13 * (s.length / 2)

/-- Bits of a segment with its header. -/
def bits (c : VersionClass) (s : Segment) : Nat := 4 + lengthBits c s.mode + dataBits s

/-- The mode that can write what either mode can. -/
def Mode.join : Mode → Mode → Mode
  | a, b =>
    if a = b then a
    else
      match a, b with
      | .numeric, .alphanumeric | .alphanumeric, .numeric => .alphanumeric
      | _, _ => .byte

/-- Joins neighbours from the left where that takes no more bits, and sums the bits. -/
def joinedBits (c : VersionClass) (current : Segment) : List Segment → Nat
  | [] => bits c current
  | s :: rest =>
    let joined : Segment := ⟨current.mode.join s.mode, current.length + s.length⟩
    if bits c joined ≤ bits c current + bits c s then joinedBits c joined rest
    else bits c current + joinedBits c s rest

def totalBits (c : VersionClass) : List Segment → Nat
  | [] => 0
  | s :: rest => joinedBits c s rest

/-- Bits that the versions hold at correction level M. -/
def capacities : List Nat :=
  [128, 224, 352, 512, 688, 864, 992, 1232, 1456, 1728, 2032, 2320, 2672, 2920, 3320, 3624, 4056,
    4504, 5016, 5352, 5712, 6256, 6880, 7312, 8000, 8496, 9024, 9544, 10136, 10984, 11640, 12328,
    13048, 13800, 14496, 15312, 15936, 16816, 17728, 18672]

def capacity (version : Nat) : Nat := capacities.getD (version - 1) 0

/-- The smallest version that holds `bytes`. -/
def version? (bytes : List UInt8) : Option Nat :=
  let segments := segments bytes
  [VersionClass.upTo9, .upTo26, .upTo40].findSome? fun c =>
    let bits := totalBits c segments
    if bits ≤ capacity c.most then
      (capacities.findIdx? (bits ≤ ·)).map (· + 1)
    else none

/-- Modules on a side of the symbol of `bytes`. -/
def modules? (bytes : List UInt8) : Option Nat := (version? bytes).map fun v => 17 + 4 * v

end ReceiptPrinter.QrSymbol

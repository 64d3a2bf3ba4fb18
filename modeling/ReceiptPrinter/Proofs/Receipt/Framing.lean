import ReceiptPrinter.Proofs.Command.Reader
import ReceiptPrinter.Proofs.Except
import ReceiptPrinter.Proofs.Receipt.QrSymbol
import ReceiptPrinter.Receipt.Encode

/-!
# Receipts in frame

Everything that a receipt sends is a command whose numbers fit in their bytes, or a byte that is no
control byte: text is free of control bytes in either code page, bands of pictures have the size
they say, and the data of barcodes and QR codes is short. So `Command.readAll?` gets back from the
bytes of a receipt exactly the commands that were sent.
-/

namespace ReceiptPrinter

namespace Command

def AllFramed (cs : List Command) : Prop := ∀ c ∈ cs, c.Framed

@[simp] theorem allFramed_nil : AllFramed [] := by simp [AllFramed]

@[simp] theorem allFramed_cons {c : Command} {cs : List Command} :
    AllFramed (c :: cs) ↔ c.Framed ∧ AllFramed cs := List.forall_mem_cons

@[simp] theorem allFramed_append {cs cs' : List Command} :
    AllFramed (cs ++ cs') ↔ AllFramed cs ∧ AllFramed cs' := List.forall_mem_append

theorem allFramed_flatMap {α : Type} {l : List α} {f : α → List Command}
    (h : ∀ a ∈ l, AllFramed (f a)) : AllFramed (l.flatMap f) := by
  intro c hc
  obtain ⟨a, ha, hc⟩ := List.mem_flatMap.1 hc
  exact h a ha c hc

theorem allFramed_replicate {c : Command} (h : c.Framed) (n : Nat) :
    AllFramed (List.replicate n c) := by
  intro c' hc'
  rw [List.eq_of_mem_replicate hc']
  exact h

theorem clamp_of_le {low high n : Nat} (hlow : low ≤ n) (hhigh : n ≤ high) :
    clamp low high n = n := by
  rw [clamp, Nat.min_eq_right hhigh, Nat.max_eq_right hlow]

theorem framed_print {n : Nat} (hlow : 0x20 ≤ n) (hhigh : n ≤ 0xFF) (hne : n ≠ 0x7F) :
    (print (UInt8.ofNat n)).Framed := by
  have hn := toNat_ofNat hhigh
  show isPrinted (UInt8.ofNat n) = true
  rw [isPrinted, Bool.and_eq_true, decide_eq_true_eq, bne_iff_ne, UInt8.le_iff_toNat_le, hn]
  refine ⟨hlow, fun heq => hne ?_⟩
  rw [← hn, heq]
  rfl

/-! ### Pictures and feeds -/

theorem allFramed_feedBy (dots : Nat) : AllFramed (feedBy dots) := by
  rw [feedBy, allFramed_append]
  refine ⟨allFramed_replicate (Nat.le_refl _) _, ?_⟩
  split
  · exact allFramed_nil
  · have hle : dots % 255 ≤ 255 := by omega
    exact allFramed_cons.2 ⟨hle, allFramed_nil⟩

theorem rowBytes_le (b : Bitmap) : b.rowBytes ≤ 8192 := by
  have hwidth := b.width_le
  rw [Bitmap.rowBytes, bytesForDots]
  omega

theorem framed_rasterBand {b : Bitmap} {first rows : Nat} (h : first + rows ≤ b.height)
    (hrows : rows ≤ bandRows) : (rasterBand b first rows).Framed := by
  have hbytes := rowBytes_le b
  have hlength : ((b.data.drop (first * b.rowBytes)).take (rows * b.rowBytes)).length =
      b.rowBytes * rows := by
    have hdata : b.data.length = b.rowBytes * b.height := b.data_length
    have hle : b.rowBytes * (first + rows) ≤ b.rowBytes * b.height := Nat.mul_le_mul_left _ h
    rw [List.length_take, List.length_drop, hdata, Nat.mul_comm first, Nat.mul_comm rows]
    rw [Nat.mul_add] at hle
    omega
  refine ⟨by omega, ?_, hlength⟩
  rw [bandRows] at hrows
  omega

theorem allFramed_rasterBandsFrom {b : Bitmap} {first rows : Nat} (h : first + rows ≤ b.height) :
    AllFramed (rasterBandsFrom b first rows) := by
  fun_induction rasterBandsFrom b first rows with
  | case1 first => exact allFramed_nil
  | case2 first rows hrows ih =>
    refine allFramed_cons.2 ⟨framed_rasterBand ?_ (Nat.min_le_right _ _), ih ?_⟩ <;> omega

end Command

open Command

/-! ### Text -/

namespace Gbk

/-- A GBK code is a lead byte from `81` on and a trail byte from `40` on. -/
theorem encode?_eq_some {c : Char} {bytes : List UInt8} (h : encode? c = some bytes) :
    ∃ lead trail, bytes = [UInt8.ofNat lead, UInt8.ofNat trail] ∧ 0x81 ≤ lead ∧ lead ≤ 0xFE ∧
      0x40 ≤ trail ∧ trail ≤ 0xFE ∧ trail ≠ 0x7F := by
  obtain ⟨cell, -, h⟩ := Option.bind_eq_some_iff.1 h
  split at h
  · next hcell =>
    cases h
    refine ⟨_, _, rfl, ?_⟩
    rw [cells, rowCells] at hcell
    rw [rowCells]
    split <;> omega
  · cases h

end Gbk

namespace Windows1252

/-- A Windows-1252 code past ASCII is past the control bytes. -/
theorem encode?_eq_some {c : Char} {b : UInt8} (h : encode? c = some b) :
    ∃ n, b = UInt8.ofNat n ∧ 0x80 ≤ n ∧ n ≤ 0xFF := by
  unfold encode? at h
  simp only at h
  split at h
  · cases h
    exact ⟨_, rfl, by omega, by omega⟩
  · obtain ⟨i, hi, rfl⟩ := Option.map_eq_some_iff.1 h
    have hlt : i < specials.length := (List.findIdx?_eq_some_iff_getElem.1 hi).1
    have hlength : specials.length = 32 := rfl
    exact ⟨_, rfl, by omega, by omega⟩

end Windows1252

namespace Charset

theorem allFramed_encode? {charset : Charset} {c : Char} {bytes : List UInt8}
    (h : charset.encode? c = some bytes) : AllFramed (bytes.map .print) := by
  cases charset with
  | gbk =>
    simp only [encode?] at h
    split at h
    · cases h
      exact allFramed_cons.2 ⟨rfl, allFramed_nil⟩
    · obtain ⟨lead, trail, rfl, hbounds⟩ := Gbk.encode?_eq_some h
      refine allFramed_cons.2 ⟨framed_print ?_ ?_ ?_, allFramed_cons.2
        ⟨framed_print ?_ ?_ ?_, allFramed_nil⟩⟩ <;> omega
  | windows1252 =>
    obtain ⟨b, hb, rfl⟩ := Option.map_eq_some_iff.1 h
    obtain ⟨n, rfl, hbounds⟩ := Windows1252.encode?_eq_some hb
    refine allFramed_cons.2 ⟨framed_print ?_ ?_ ?_, allFramed_nil⟩ <;> omega

theorem allFramed_charCommands (charset : Charset) (c : Char) :
    AllFramed (charset.charCommands c) := by
  unfold charCommands
  split
  · exact allFramed_cons.2 ⟨rfl, allFramed_nil⟩
  · next hcontrol =>
    split
    · next hascii =>
      simp only [Text.isControl, Bool.or_eq_true, Bool.and_eq_true, decide_eq_true_eq] at hcontrol
      have hlt : c.toNat < 0x80 := of_decide_eq_true hascii
      refine allFramed_cons.2 ⟨framed_print ?_ ?_ ?_, allFramed_nil⟩ <;> omega
    · split
      · simp [euro, Framed, isPrinted]
      · split
        · next hencode => exact allFramed_encode? hencode
        · exact allFramed_cons.2 ⟨rfl, allFramed_nil⟩

theorem allFramed_textCommands (charset : Charset) (s : Text) :
    AllFramed (charset.textCommands s) :=
  allFramed_flatMap fun c _ => allFramed_charCommands charset c

theorem allFramed_preamble (charset : Charset) : AllFramed charset.preamble := by
  cases charset <;> simp [preamble, Framed]

end Charset

namespace Layout

theorem allFramed_changeStyle (current wanted : TextStyle) :
    AllFramed (changeStyle current wanted) := by
  rw [changeStyle, allFramed_append, allFramed_append]
  refine ⟨⟨?_, ?_⟩, ?_⟩ <;> split <;> simp [Framed]

theorem allFramed_pieceCommands (charset : Charset) (current : TextStyle) (ps : List Piece) :
    AllFramed (pieceCommands charset current ps) := by
  induction ps generalizing current with
  | nil => exact allFramed_changeStyle current {}
  | cons p ps ih =>
    rw [pieceCommands, allFramed_append, allFramed_append]
    exact ⟨⟨allFramed_changeStyle current p.style, charset.allFramed_textCommands p.text⟩,
      ih p.style⟩

theorem allFramed_lineCommands (charset : Charset) (line : List Piece) :
    AllFramed (lineCommands charset line) := by
  rw [lineCommands, allFramed_append]
  exact ⟨allFramed_pieceCommands charset {} line, by simp [Framed]⟩

theorem allFramed_wrappedCommands (charset : Charset) (columns : Nat) (align : Align)
    (runs : List TextRun) : AllFramed (wrappedCommands charset columns align runs) := by
  rw [wrappedCommands, allFramed_cons]
  exact ⟨trivial, allFramed_flatMap fun line _ => allFramed_lineCommands charset line⟩

theorem allFramed_commands (config : Config) (runs : List TextRun) :
    AllFramed (commands config runs) := by
  unfold commands
  split
  · exact allFramed_nil
  · simp only
    split
    · exact allFramed_wrappedCommands _ _ _ _
    · split
      · exact allFramed_cons.2 ⟨trivial, allFramed_lineCommands _ _⟩
      · exact allFramed_flatMap fun g _ => allFramed_wrappedCommands _ _ _ _

end Layout

/-! ### Barcodes and QR codes -/

namespace Barcode

theorem length_numericData_le {payload : Nat} {content : Text} {data : List UInt8}
    (h : numericData payload content = .ok data) : data.length ≤ payload + 1 := by
  unfold numericData at h
  simp only at h
  split at h
  · cases h
  · split at h
    · cases h
    · split at h
      · cases h
      · have hlength : ∀ check : UInt8, ((content.take payload).map
            (fun c => UInt8.ofNat c.toNat) ++ [check]).length ≤ payload + 1 := by
          intro check
          rw [List.length_append, List.length_map, List.length_take]
          exact Nat.succ_le_succ (Nat.min_le_left _ _)
        split at h
        · cases h
          exact hlength _
        · split at h
          · cases h
            exact hlength _
          · cases h

theorem length_code128Data_le {content : Text} {data : List UInt8}
    (h : code128Data content = .ok data) : data.length ≤ 255 := by
  obtain ⟨⟨-, -, hle⟩, -⟩ := code128Data_eq_ok_iff.1 h
  rw [length_code128Data h]
  omega

theorem length_data_le {b : Barcode} {data : List UInt8} (h : b.data = .ok data) :
    data.length ≤ 255 := by
  rcases b with ⟨symbology, content, height, width, textPosition, align⟩
  have hdata := data_eq_ok_iff.1 h
  cases symbology with
  | ean13 => exact Nat.le_trans (length_numericData_le hdata) (by decide)
  | ean8 => exact Nat.le_trans (length_numericData_le hdata) (by decide)
  | upcA => exact Nat.le_trans (length_numericData_le hdata) (by decide)
  | code128 => exact length_code128Data_le hdata

/-- The commands of a barcode: its modules and its height are what the firmware takes, and the
symbol fits on the paper. -/
theorem commands_eq_ok {config : Config} {b : Barcode} {cs : List Command}
    (h : b.commands config = .ok cs) :
    ∃ data height module, b.data = .ok data ∧
      cs = [.align b.align, .barcodeHeight height, .barcodeModule module,
        .barcodeText b.textPosition, .barcode b.symbology data] ∧
      (2 ≤ module ∧ module ≤ 6) ∧
      module * modules b.symbology (characters b.symbology data) ≤ config.printableDots ∧
      1 ≤ height ∧ height ≤ 255 := by
  obtain ⟨data, hdata, h⟩ := bind_eq_ok_iff.1 h
  simp only at h
  split at h
  · cases h
  · next hfit =>
    cases h
    refine ⟨data, _, _, hdata, rfl, ?_, Nat.mul_le_of_le_div _ _ _ (Nat.min_le_right _ _), ?_⟩
    · rw [Command.clamp]
      omega
    · rw [Command.clamp]
      omega

theorem allFramed_commands {config : Config} {b : Barcode} {cs : List Command}
    (h : b.commands config = .ok cs) : AllFramed cs := by
  obtain ⟨data, height, module, hdata, rfl, ⟨hlow, hhigh⟩, -, hheight⟩ := commands_eq_ok h
  have hmodule : (barcodeModule module).Framed := clamp_of_le hlow hhigh
  simp only [allFramed_cons, allFramed_nil, and_true]
  exact ⟨trivial, hheight.2, hmodule, trivial, length_data_le hdata⟩

end Barcode

namespace QrCode

theorem moduleDots_eq_ok {config : Config} {wanted modules dots : Nat}
    (h : moduleDots config wanted modules = .ok dots) :
    (1 ≤ dots ∧ dots ≤ 16) ∧ dots ≤ wanted ∧ dots * modules ≤ config.printableDots := by
  unfold moduleDots at h
  simp only at h
  split at h
  · cases h
  · cases h
    rw [largestModule] at *
    refine ⟨by omega, by omega, ?_⟩
    calc _ ≤ _ * max modules 1 := Nat.mul_le_mul_left _ (Nat.le_max_left modules 1)
      _ ≤ config.printableDots := Nat.mul_le_of_le_div _ _ _ (Nat.min_le_right _ _)

/-- The commands of a QR code: its modules are no larger than asked for and what the firmware takes,
and the symbol fits on the paper. -/
theorem commands_eq_ok {config : Config} {q : QrCode} {cs : List Command}
    (h : q.commands config = .ok cs) :
    ∃ dots modules, QrSymbol.modules? (Text.utf8 q.content) = some modules ∧
      cs = .align q.align :: Command.qrCode (Text.utf8 q.content) dots ∧
      (1 ≤ dots ∧ dots ≤ 16) ∧ dots ≤ q.moduleSize.toNat ∧
      dots * modules ≤ config.printableDots := by
  unfold commands at h
  simp only at h
  split at h
  · cases h
  · split at h
    · cases h
    · next modules hmodules =>
      obtain ⟨dots, hdots, rfl⟩ := map_eq_ok_iff.1 h
      exact ⟨dots, modules, hmodules, rfl, moduleDots_eq_ok hdots⟩

theorem allFramed_commands {config : Config} {q : QrCode} {cs : List Command}
    (h : q.commands config = .ok cs) : AllFramed cs := by
  obtain ⟨dots, modules, hmodules, rfl, ⟨hlow, hhigh⟩, -⟩ := commands_eq_ok h
  have hmodule : (qrModule dots).Framed := clamp_of_le hlow hhigh
  have hlength := QrSymbol.length_le_of_modules? hmodules
  have hstore : (qrStore (Text.utf8 q.content)).Framed := by
    show (Text.utf8 q.content).length + 3 ≤ 65535
    omega
  simp only [Command.qrCode, allFramed_cons, allFramed_nil, and_true]
  exact ⟨trivial, trivial, hmodule, trivial, hstore, trivial⟩

end QrCode

/-! ### Receipts -/

theorem Picture.allFramed_segments {config : Config} {p : Picture} {segments : List (List Command)}
    (h : p.segments config = .ok segments) : AllFramed segments.flatten := by
  have hbands : AllFramed (rasterBands p.bitmap) :=
    allFramed_rasterBandsFrom (Nat.le_of_eq (Nat.zero_add _))
  unfold Picture.segments at h
  split at h
  · cases h
  · split at h
    · cases h
      exact allFramed_cons.2 ⟨trivial, allFramed_nil⟩
    · next band bands heq =>
      cases h
      rw [heq, allFramed_cons] at hbands
      rw [List.flatten_cons, allFramed_append, ← List.flatMap_def, List.flatMap_singleton']
      exact ⟨allFramed_cons.2 ⟨trivial, allFramed_cons.2 ⟨hbands.1, allFramed_nil⟩⟩, hbands.2⟩

namespace Receipt

theorem allFramed_blockSegments {config : Config} {e : Element} {segments : List (List Command)}
    (h : blockSegments config e = .ok segments) : AllFramed segments.flatten := by
  cases e with
  | text run =>
    cases h
    rw [List.flatten_singleton]
    exact Layout.allFramed_commands config [run]
  | picture p => exact p.allFramed_segments h
  | barcode b =>
    obtain ⟨cs, hcs, rfl⟩ := map_eq_ok_iff.1 h
    rw [List.flatten_singleton]
    exact Barcode.allFramed_commands hcs
  | qrCode q =>
    obtain ⟨cs, hcs, rfl⟩ := map_eq_ok_iff.1 h
    rw [List.flatten_singleton]
    exact QrCode.allFramed_commands hcs
  | feed lines =>
    cases h
    rw [List.flatten_singleton]
    have hfeed : lineFeed.Framed := trivial
    exact allFramed_replicate hfeed lines

theorem allFramed_pendingSegments (config : Config) (pending : List TextRun) :
    AllFramed (pendingSegments config pending).flatten := by
  unfold pendingSegments
  split
  · exact allFramed_nil
  · rw [List.flatten_singleton]
    exact Layout.allFramed_commands config pending

theorem allFramed_bodySegments {config : Config} {pending : List TextRun} {es : List Element}
    {segments : List (List Command)} (h : bodySegments config pending es = .ok segments) :
    AllFramed segments.flatten := by
  fun_induction bodySegments config pending es generalizing segments with
  | case1 pending =>
    cases h
    exact allFramed_pendingSegments config pending
  | case2 pending run rest hends ih =>
    obtain ⟨following, hfollowing, h⟩ := bind_eq_ok_iff.1 h
    cases h
    rw [List.flatten_cons, allFramed_append]
    exact ⟨Layout.allFramed_commands config _, ih hfollowing⟩
  | case3 pending run rest hends ih => exact ih h
  | case4 pending e rest hne ih =>
    obtain ⟨block, hblock, h⟩ := bind_eq_ok_iff.1 h
    obtain ⟨following, hfollowing, h⟩ := bind_eq_ok_iff.1 h
    cases h
    rw [List.flatten_append, List.flatten_append, allFramed_append, allFramed_append]
    exact ⟨⟨allFramed_pendingSegments config pending, allFramed_blockSegments hblock⟩,
      ih hfollowing⟩

theorem allFramed_terminator (config : Config) (feedLines : Number.Single) :
    AllFramed (terminator config feedLines) := by
  rw [terminator, allFramed_append]
  refine ⟨by simp [Framed], ?_⟩
  split
  · exact allFramed_feedBy _
  · exact allFramed_nil

/-- Every command of `commandSegments` is `Framed`. -/
theorem allFramed_commandSegments {config : Config} {feedLines : Number.Single} {es : List Element}
    {segments : List (List Command)} (h : commandSegments config feedLines es = .ok segments) :
    AllFramed segments.flatten := by
  obtain ⟨body, hbody, h⟩ := bind_eq_ok_iff.1 h
  cases h
  rw [List.flatten_filter_not_isEmpty, List.cons_append, List.flatten_cons, List.flatten_append,
    List.flatten_singleton, allFramed_append, allFramed_append, preamble, allFramed_cons]
  exact ⟨⟨trivial, config.charset.allFramed_preamble⟩, allFramed_bodySegments hbody,
    allFramed_terminator config feedLines⟩

theorem flatten_map_stream (segments : List (List Command)) :
    (segments.map stream).flatten = stream segments.flatten := by
  induction segments with
  | nil => rfl
  | cons segment segments ih =>
    rw [List.map_cons, List.flatten_cons, ih, List.flatten_cons, stream, stream, stream,
      List.flatMap_append]

/-- `readAll?` reads the bytes of `encodeWithFeed` as the commands that were sent, all of them
`Framed`. -/
theorem readAll?_encodeWithFeed {config : Config} {feedLines : Number.Single} {es : List Element}
    {segments : List (List UInt8)} (h : encodeWithFeed config feedLines es = .ok segments) :
    ∃ sent, commandSegments config feedLines es = .ok sent ∧ segments = sent.map stream ∧
      AllFramed sent.flatten ∧ readAll? segments.flatten = some sent.flatten := by
  obtain ⟨sent, hsent, rfl⟩ := map_eq_ok_iff.1 h
  have hframed := allFramed_commandSegments hsent
  refine ⟨sent, hsent, rfl, hframed, ?_⟩
  rw [flatten_map_stream]
  exact readAll?_stream hframed

/-- An escape in the text is printed as a blank, and braces and QR data stay data. -/
theorem readAll?_escape_receipt :
    ∃ config segments, Config.build { host := some "a".toList } = .ok config ∧
      encodeWithFeed config (Number.Single.ofNat 1) [.text (.line "\x1B€".toList .left),
        .barcode { symbology := .code128, content := "\x7b".toList },
        .qrCode { content := "A".toList, moduleSize := 4 }, .feed 1] = .ok segments ∧
      readAll? segments.flatten = some [.reset, .enterChinese, .chineseCode 1,
        .align .left, .print 0x20, .leaveChinese, .codeTable 19, .print 0xD5, .enterChinese,
        .lineFeed, .align .center, .barcodeHeight 80, .barcodeModule 6, .barcodeText .below,
        .barcode .code128 [0x7B, 0x42, 0x7B, 0x7B], .align .center, .qrModel, .qrModule 4,
        .qrCorrection, .qrStore [0x41], .qrPrint, .lineFeed, .align .left, .lineFeed,
        .feedDots 34] := by
  have hencode : encodeWithFeed
      ⟨{}, .full, true, true, Number.Single.zero, .gbk, .network "a".toList 9100 30⟩
      (Number.Single.ofNat 1) [.text (.line "\x1B€".toList .left),
        .barcode { symbology := .code128, content := "\x7b".toList },
        .qrCode { content := "A".toList, moduleSize := 4 }, .feed 1] = .ok _ := rfl
  obtain ⟨sent, hsent, -, -, hread⟩ := readAll?_encodeWithFeed hencode
  cases hsent
  exact ⟨_, _, rfl, hencode, hread⟩

end Receipt

end ReceiptPrinter

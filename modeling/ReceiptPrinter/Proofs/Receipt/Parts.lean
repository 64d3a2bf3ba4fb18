import ReceiptPrinter.Proofs.Receipt.Bands
import ReceiptPrinter.Proofs.Receipt.Layout

/-!
# Parts of a receipt

A receipt is printed `Part` by part: lines of runs, and elements that are no text. A part is
`Served` by its segments: they print what the part says (`Prints`), and nothing on the paper is
larger than the paper or the firmware allows (`Fits`).
-/

namespace ReceiptPrinter

open Layout

/-- The runs of a line, or an element that is no text. -/
inductive Part where
  | line (runs : List TextRun)
  | block (e : Element)

namespace Part

def elements : Part → List Element
  | .line runs => runs.map .text
  | .block e => [e]

def runs : Part → List TextRun
  | .line runs => runs
  | .block _ => []

/-- What a part leaves on the paper. -/
inductive Prints (config : Config) : Part → List Imprint → Prop
  | line {runs : List TextRun} {lines : List (Align × List Glyph)} (h : Laid config runs lines) :
    Prints config (.line runs) (lines.map fun line => config.charset.imprint line.1 line.2)
  | picture {p : Picture} {bands : List (Nat × List UInt8)}
    (hrows : (bands.map Prod.fst).sum = p.bitmap.height)
    (hdata : bands.flatMap Prod.snd = p.bitmap.data) :
    Prints config (.block (.picture p))
      (bands.map fun band => .picture p.align p.bitmap.rowBytes band.1 band.2)
  | barcode {b : Barcode} {data : List UInt8} (height module : Nat) (hdata : b.data = .ok data) :
    Prints config (.block (.barcode b))
      [.barcode b.align height module b.textPosition b.symbology data]
  | qrCode (q : QrCode) (dots : Nat) :
    Prints config (.block (.qrCode q)) [.qrCode q.align dots (Text.utf8 q.content)]
  | feed (lines : Nat) (align : Align) :
    Prints config (.block (.feed lines)) (List.replicate lines (.line align {} []))

/-- Whether what a part leaves on the paper keeps to the paper and to the firmware. A line is
measured by the columns that its characters count and by the cells that its bytes take. -/
inductive Fits (config : Config) : Part → List Imprint → Prop
  | line {runs : List TextRun} {imprints : List Imprint}
    (h : ∀ i ∈ imprints, ∃ align gs, i = config.charset.imprint align gs ∧
      width config.charset gs ≤ config.columns ∧
      (i.marks.map Mark.columns).sum ≤ config.columns) :
    Fits config (.line runs) imprints
  | picture {p : Picture} {imprints : List Imprint} (hwidth : p.bitmap.width ≤ config.printableDots)
    (h : ∀ i ∈ imprints, ∃ rows data, 1 ≤ rows ∧ rows ≤ 128 ∧
      i = .picture p.align (bytesForDots p.bitmap.width) rows data) :
    Fits config (.block (.picture p)) imprints
  | barcode {b : Barcode} {data : List UInt8} {height module : Nat}
    (hmodule : 2 ≤ module ∧ module ≤ 6)
    (hwidth : module * Barcode.modules b.symbology (Barcode.characters b.symbology data) ≤
      config.printableDots)
    (hheight : 1 ≤ height ∧ height ≤ 255) :
    Fits config (.block (.barcode b))
      [.barcode b.align height module b.textPosition b.symbology data]
  | qrCode {q : QrCode} {dots modules : Nat}
    (hmodules : QrSymbol.modules? (Text.utf8 q.content) = some modules)
    (hdots : 1 ≤ dots ∧ dots ≤ 16) (hwanted : dots ≤ q.moduleSize.toNat)
    (hwidth : dots * modules ≤ config.printableDots) :
    Fits config (.block (.qrCode q)) [.qrCode q.align dots (Text.utf8 q.content)]
  | feed {lines : Nat} {imprints : List Imprint} (h : ∀ i ∈ imprints, i.marks = []) :
    Fits config (.block (.feed lines)) imprints

/-- Everything about what is printed for `part`: the characters typed and the imprints. -/
structure Served (config : Config) (part : Part) (output : List Glyph × List Imprint) : Prop where
  prints : part.Prints config output.2
  fits : part.Fits config output.2
  characters : ∃ n, output.1.Perm (glyphs part.runs ++ List.replicate n blank)

end Part

namespace Receipt

def pendingParts (pending : List TextRun) : List Part :=
  if pending.isEmpty then [] else [.line pending]

/-- The parts of a receipt after runs that wait for the end of their line. A line ends after a run
that ends it, before an element that is no text, and at the end of the receipt. -/
def parts (pending : List TextRun) : List Element → List Part
  | [] => pendingParts pending
  | .text run :: rest =>
    if run.endsLine then .line (pending ++ [run]) :: parts [] rest
    else parts (pending ++ [run]) rest
  | e :: rest => pendingParts pending ++ .block e :: parts [] rest

theorem flatMap_elements_pendingParts (pending : List TextRun) :
    (pendingParts pending).flatMap Part.elements = pending.map .text := by
  rw [pendingParts]
  split
  · next h =>
    rw [List.isEmpty_iff.1 h]
    rfl
  · exact List.flatMap_singleton _ _

theorem flatMap_elements_parts (pending : List TextRun) (es : List Element) :
    (parts pending es).flatMap Part.elements = pending.map .text ++ es := by
  fun_induction parts pending es with
  | case1 pending => rw [flatMap_elements_pendingParts, List.append_nil]
  | case2 pending run rest hends ih =>
    rw [List.flatMap_cons, ih, Part.elements]
    simp
  | case3 pending run rest hends ih =>
    rw [ih]
    simp
  | case4 pending e rest hne ih =>
    rw [List.flatMap_append, flatMap_elements_pendingParts, List.flatMap_cons, ih]
    rfl

def textRuns (es : List Element) : List TextRun :=
  es.filterMap fun
    | .text run => some run
    | _ => none

theorem flatMap_runs_pendingParts (pending : List TextRun) :
    (pendingParts pending).flatMap Part.runs = pending := by
  rw [pendingParts]
  split
  · next h => exact (List.isEmpty_iff.1 h).symm
  · exact List.flatMap_singleton _ _

theorem flatMap_runs_parts (pending : List TextRun) (es : List Element) :
    (parts pending es).flatMap Part.runs = pending ++ textRuns es := by
  fun_induction parts pending es with
  | case1 pending => rw [flatMap_runs_pendingParts, textRuns, List.filterMap_nil, List.append_nil]
  | case2 pending run rest hends ih =>
    rw [List.flatMap_cons, ih, Part.runs, List.nil_append, List.append_assoc]
    rfl
  | case3 pending run rest hends ih =>
    rw [ih, List.append_assoc]
    rfl
  | case4 pending e rest hne ih =>
    rw [List.flatMap_append, flatMap_runs_pendingParts, List.flatMap_cons, ih]
    cases e with
    | text run => exact absurd rfl (hne run)
    | _ => rfl

end Receipt

section
variable {config : Config} {p : Printer}

theorem exists_serial_line (hp : config.charset.Rests p) {runs : List TextRun}
    (hne : runs ≠ []) :
    ∃ output, (Part.line runs).Served config output ∧
      Serial config.charset p [commands config runs] output.1 output.2 := by
  refine ⟨(_, _), ⟨.line (laid_laid hne), .line fun i hi => ?_, (laid_laid hne).perm⟩,
    serial_singleton (printing_commands hp runs)⟩
  obtain ⟨line, hline, rfl⟩ := List.mem_map.1 hi
  have hwidth := width_laid_le line hline
  exact ⟨_, _, rfl, hwidth, Nat.le_trans (Nat.le_of_eq (config.charset.columns_marks line.2)) hwidth⟩

/-! ### Pictures -/

theorem serial_bands (hp : config.charset.Rests p) (bitmap : Bitmap) (bands : List Band) :
    Serial config.charset p (bands.map fun band => [band.command bitmap]) []
      (bands.map fun band => .picture p.align bitmap.rowBytes band.rows band.data) := by
  induction bands generalizing p with
  | nil => exact .nil hp
  | cons band bands ih =>
    have hband : Printing config.charset p [band.command bitmap] []
        [.picture p.align bitmap.rowBytes band.rows band.data] :=
      printing_silent rfl rfl rfl (hp.congr rfl rfl rfl rfl rfl rfl)
    exact .cons hband (ih hband.rests)

/-- `Banded` bands print the rows and the bytes that they are cut from. -/
theorem prints_bands {picture : Picture} {bands : List Band}
    (h : Banded picture.bitmap.rowBytes picture.bitmap.height picture.bitmap.data bands) :
    (Part.block (.picture picture)).Prints config (bands.map fun band =>
      .picture picture.align picture.bitmap.rowBytes band.rows band.data) := by
  let pairs := bands.map fun band => (band.rows, band.data)
  have hrows : (pairs.map Prod.fst).sum = picture.bitmap.height := by
    rw [List.map_map]
    exact h.sum_eq
  have hdata : pairs.flatMap Prod.snd = picture.bitmap.data := by
    rw [List.flatMap_map]
    exact h.data_eq
  have hprints : (Part.block (.picture picture)).Prints config _ := .picture hrows hdata
  rw [List.map_map] at hprints
  exact hprints

theorem exists_serial_picture (hp : config.charset.Rests p) {picture : Picture}
    {segments : List (List Command)} (h : picture.segments config = .ok segments) :
    ∃ output, (Part.block (.picture picture)).Served config output ∧
      Serial config.charset p segments output.1 output.2 := by
  obtain ⟨bands, hbands, hbanded⟩ := exists_banded_bitmap picture.bitmap
  unfold Picture.segments at h
  split at h
  · cases h
  · next hwidth =>
    refine ⟨([], _), ⟨prints_bands hbanded, .picture (Nat.le_of_not_lt hwidth) fun i hi => ?_, 0,
      .nil⟩, ?_⟩
    · obtain ⟨band, hband, rfl⟩ := List.mem_map.1 hi
      obtain ⟨hpos, hle⟩ := hbanded.bounds band hband
      exact ⟨_, _, hpos, hle, rfl⟩
    · rw [hbands] at h
      have halign := printing_align hp picture.align
      cases bands with
      | nil =>
        cases h
        exact serial_singleton halign
      | cons band bands =>
        cases h
        -- the alignment goes with the first band
        have hserial := (Serial.cons halign
          (serial_bands halign.rests picture.bitmap (band :: bands))).merge
        rw [List.map_map]
        exact hserial

/-! ### Barcodes and QR codes -/

theorem exists_serial_barcode (hp : config.charset.Rests p) {b : Barcode} {cs : List Command}
    (h : b.commands config = .ok cs) :
    ∃ output, (Part.block (.barcode b)).Served config output ∧
      Serial config.charset p [cs] output.1 output.2 := by
  obtain ⟨data, height, module, hdata, rfl, hmodule, hwidth, hheight⟩ := Barcode.commands_eq_ok h
  refine ⟨([], _), ⟨.barcode height module hdata, .barcode hmodule hwidth hheight, 0, .nil⟩, ?_⟩
  exact serial_singleton (printing_silent rfl rfl rfl
    (hp.congr rfl rfl rfl rfl rfl rfl))

theorem exists_serial_qrCode (hp : config.charset.Rests p) {q : QrCode} {cs : List Command}
    (h : q.commands config = .ok cs) :
    ∃ output, (Part.block (.qrCode q)).Served config output ∧
      Serial config.charset p [cs] output.1 output.2 := by
  obtain ⟨dots, modules, hmodules, rfl, hdots, hwanted, hwidth⟩ := QrCode.commands_eq_ok h
  refine ⟨([], _), ⟨.qrCode q dots, .qrCode hmodules hdots hwanted hwidth, 0, .nil⟩, ?_⟩
  exact serial_singleton (printing_silent rfl rfl rfl
    (hp.congr rfl rfl rfl rfl rfl rfl))

/-! ### Feeds -/

theorem printing_feedLines (hp : config.charset.Rests p) (n : Nat) :
    Printing config.charset p (Command.feedLines n) []
      (List.replicate n (.line p.align {} [])) := by
  induction n generalizing p with
  | zero => exact printing_nil hp
  | succ n ih =>
    have hline : Printing config.charset p [.lineFeed] [] [.line p.align {} []] := by
      refine printing_silent rfl ?_ rfl
        ⟨hp.style, hp.inForce.congr rfl rfl rfl, hp.lead, rfl⟩
      show p.paper ++ [.line p.align p.style p.buffer] = _
      rw [hp.style, hp.buffer]
    exact hline.append (ih hline.rests)

theorem exists_feedBy_eq (dots : Nat) :
    ∃ spaces : List Nat, Command.feedBy dots = spaces.map .feedDots ∧ spaces.sum = dots := by
  rw [Command.feedBy]
  split
  · next hzero =>
    refine ⟨List.replicate (dots / 255) 255, by simp, ?_⟩
    rw [List.sum_replicate_nat]
    omega
  · next hpos =>
    refine ⟨List.replicate (dots / 255) 255 ++ [dots % 255], by simp, ?_⟩
    rw [List.sum_append, List.sum_replicate_nat, List.sum_singleton]
    omega

theorem printing_feedDots (hp : config.charset.Rests p) (spaces : List Nat) :
    Printing config.charset p (spaces.map .feedDots) [] (spaces.map .space) ∧
      (p.run (spaces.map .feedDots)).align = p.align := by
  induction spaces generalizing p with
  | nil => exact ⟨printing_nil hp, rfl⟩
  | cons n spaces ih =>
    have hstep : p.step (.feedDots n) = p.put (.space n) := by
      rw [Printer.step, Printer.flush, hp.buffer]
      rfl
    have hspace : Printing config.charset p [.feedDots n] [] [.space n] := by
      refine printing_silent rfl ?_ rfl ?_ <;>
        rw [Printer.run_cons, hstep, Printer.run_nil]
      · rfl
      · exact hp.congr rfl rfl rfl rfl rfl rfl
    obtain ⟨hrest, halign⟩ := ih hspace.rests
    rw [Printer.run_cons, Printer.run_nil, hstep] at halign
    refine ⟨hspace.append hrest, ?_⟩
    rw [List.map_cons, Printer.run_cons, hstep]
    exact halign

end

end ReceiptPrinter

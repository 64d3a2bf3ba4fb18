import ReceiptPrinter.Proofs.Receipt.Parts

/-!
# What a receipt comes out as

A printer that gets the bytes of a receipt prints its parts in order, then a blank line and the
feed. `Printout`: every character of the text is typed once, in its own style and in the code page
of the preamble, the lines hold the characters of their runs and nothing but blanks between groups,
and the printer is left as the next receipt expects it; and everything fits on the paper.
-/

namespace ReceiptPrinter.Receipt

open Layout

section
variable {config : Config} {p : Printer}

def AllServed (config : Config) (parts : List Part) (outputs : List (List Glyph × List Imprint)) :
    Prop := List.Forall₂ (Part.Served config) parts outputs

theorem exists_serial_pendingSegments (hp : config.charset.Rests p) (pending : List TextRun) :
    ∃ outputs, AllServed config (pendingParts pending) outputs ∧
      Serial config.charset p (pendingSegments config pending) (outputs.flatMap Prod.fst)
        (outputs.flatMap Prod.snd) := by
  rw [pendingParts, pendingSegments]
  split
  · exact ⟨[], .nil, .nil hp⟩
  · next hne =>
    obtain ⟨output, hserved, hserial⟩ :=
      exists_serial_line hp fun heq => hne (List.isEmpty_iff.2 heq)
    refine ⟨[output], .cons hserved .nil, ?_⟩
    rw [List.flatMap_singleton, List.flatMap_singleton]
    exact hserial

theorem exists_serial_blockSegments (hp : config.charset.Rests p) {e : Element}
    {segments : List (List Command)} (htext : ∀ run, e ≠ .text run)
    (h : blockSegments config e = .ok segments) :
    ∃ output, (Part.block e).Served config output ∧
      Serial config.charset p segments output.1 output.2 := by
  cases e with
  | text run => exact absurd rfl (htext run)
  | picture picture => exact exists_serial_picture hp h
  | barcode b =>
    obtain ⟨cs, hcs, rfl⟩ := map_eq_ok_iff.1 h
    exact exists_serial_barcode hp hcs
  | qrCode q =>
    obtain ⟨cs, hcs, rfl⟩ := map_eq_ok_iff.1 h
    exact exists_serial_qrCode hp hcs
  | feed lines =>
    cases h
    refine ⟨([], _), ⟨.feed lines p.align, .feed fun i hi => ?_, 0, .nil⟩,
      serial_singleton (printing_feedLines hp lines)⟩
    rw [List.eq_of_mem_replicate hi]
    rfl

/-- The segments of `bodySegments` print the `parts` of their elements: runs that wait are printed
with the run that ends their line, or before the next block. -/
theorem exists_serial_bodySegments (hp : config.charset.Rests p) {pending : List TextRun}
    {es : List Element} {segments : List (List Command)}
    (h : bodySegments config pending es = .ok segments) :
    ∃ outputs, AllServed config (parts pending es) outputs ∧
      Serial config.charset p segments (outputs.flatMap Prod.fst) (outputs.flatMap Prod.snd) := by
  fun_induction bodySegments config pending es generalizing p segments with
  | case1 pending =>
    cases h
    exact exists_serial_pendingSegments hp pending
  | case2 pending run rest hends ih =>
    obtain ⟨following, hfollowing, h⟩ := bind_eq_ok_iff.1 h
    cases h
    have hne : pending ++ [run] ≠ [] := by simp
    obtain ⟨output, hserved, hline⟩ := exists_serial_line hp hne
    obtain ⟨outputs, hall, hrest⟩ := ih hline.printing.rests hfollowing
    refine ⟨output :: outputs, ?_, hline.append hrest⟩
    rw [parts, if_pos hends]
    exact .cons hserved hall
  | case3 pending run rest hends ih =>
    rw [parts, if_neg hends]
    exact ih hp h
  | case4 pending e rest hne ih =>
    obtain ⟨block, hblock, h⟩ := bind_eq_ok_iff.1 h
    obtain ⟨following, hfollowing, h⟩ := bind_eq_ok_iff.1 h
    cases h
    obtain ⟨outputs, hall, hpending⟩ := exists_serial_pendingSegments hp pending
    obtain ⟨output, hserved, hserial⟩ :=
      exists_serial_blockSegments hpending.printing.rests hne hblock
    have hbefore := hpending.append hserial
    obtain ⟨outputs', hall', hrest⟩ := ih hbefore.printing.rests hfollowing
    refine ⟨outputs ++ output :: outputs', ?_, ?_⟩
    · rw [parts.eq_3 _ _ _ hne]
      exact List.rel_append hall (.cons hserved hall')
    · rw [List.flatMap_append, List.flatMap_append, List.flatMap_cons, List.flatMap_cons,
        ← List.append_assoc, ← List.append_assoc]
      exact hbefore.append hrest

def feedDots (config : Config) (feedLines : Number.Single) : Nat :=
  if feedLines.isFinitePositive then config.geometry.dotsOfLines feedLines else 0

theorem printing_terminator (hp : config.charset.Rests p) (feedLines : Number.Single) :
    ∃ spaces : List Nat, spaces.sum = feedDots config feedLines ∧
      Printing config.charset p (terminator config feedLines) []
        (.line .left {} [] :: spaces.map .space) ∧
      (p.run (terminator config feedLines)).align = .left := by
  have halign := printing_align hp .left
  have hline := halign.append (printing_feedLines halign.rests 1)
  rw [terminator, feedDots]
  split
  · obtain ⟨spaces, hfeed, hsum⟩ := exists_feedBy_eq (config.geometry.dotsOfLines feedLines)
    obtain ⟨hspaces, hleft⟩ := printing_feedDots hline.rests spaces
    rw [hfeed]
    refine ⟨spaces, hsum, hline.append hspaces, ?_⟩
    rw [Printer.run_append]
    exact hleft
  · exact ⟨[], rfl, hline, rfl⟩

theorem rests_preamble (config : Config) (before : Printer) :
    config.charset.Rests (before.run (preamble config)) ∧
      (before.run (preamble config)).paper = before.paper := by
  refine ⟨config.charset.rests_reset before, ?_⟩
  rw [preamble, Printer.run_cons]
  cases config.charset <;> rfl

/-- The commands of a receipt print its `parts` and a blank line, whatever the printer was before.
-/
theorem exists_serial_commandSegments {feedLines : Number.Single} {es : List Element}
    {sent : List (List Command)} (h : commandSegments config feedLines es = .ok sent)
    (before : Printer) :
    ∃ following outputs, ∃ spaces : List Nat,
      sent = preamble config :: following ∧ AllServed config (parts [] es) outputs ∧
      spaces.sum = feedDots config feedLines ∧
      Serial config.charset (before.run (preamble config)) following (outputs.flatMap Prod.fst)
        (outputs.flatMap Prod.snd ++ .line .left {} [] :: spaces.map .space) ∧
      (before.run sent.flatten).align = .left := by
  obtain ⟨body, hbody, h⟩ := bind_eq_ok_iff.1 h
  cases h
  obtain ⟨hrests, -⟩ := rests_preamble config before
  obtain ⟨outputs, hall, hserial⟩ := exists_serial_bodySegments hrests hbody
  obtain ⟨spaces, hsum, hend, halign⟩ := printing_terminator hserial.printing.rests feedLines
  have hall' := (hserial.append (serial_singleton hend)).filter_not_isEmpty
  rw [List.append_nil] at hall'
  refine ⟨_, outputs, spaces, rfl, hall, hsum, hall', ?_⟩
  rw [List.flatten_filter_not_isEmpty, List.cons_append, List.flatten_cons, List.flatten_append,
    List.flatten_singleton, Printer.run_append, Printer.run_append]
  exact halign

theorem readAll?_flatten_map_stream {sent : List (List Command)}
    (h : Command.AllFramed sent.flatten) :
    Command.readAll? (sent.map Command.stream).flatten = some sent.flatten := by
  rw [flatten_map_stream]
  exact Command.readAll?_stream h

/-- `interpret?` takes the bytes of commands for the commands, also of the first segments alone. -/
theorem interpret?_take_map_stream {sent : List (List Command)}
    (h : Command.AllFramed sent.flatten) (p : Printer) (k : Nat) :
    p.interpret? ((sent.map Command.stream).take k).flatten =
      some (p.run (sent.take k).flatten) := by
  have htake : Command.AllFramed (sent.take k).flatten := fun c hc => by
    obtain ⟨segment, hsegment, hc⟩ := List.mem_flatten.1 hc
    exact h c (List.mem_flatten.2 ⟨segment, List.mem_of_mem_take hsegment, hc⟩)
  rw [Printer.interpret?, ← List.map_take, readAll?_flatten_map_stream htake, Option.map_some]

theorem interpret?_map_stream {sent : List (List Command)} (h : Command.AllFramed sent.flatten)
    (p : Printer) :
    p.interpret? (sent.map Command.stream).flatten = some (p.run sent.flatten) := by
  rw [Printer.interpret?, readAll?_flatten_map_stream h, Option.map_some]

theorem paper_of_serial {before : Printer} {following : List (List Command)} {gs : List Glyph}
    {imprints : List Imprint}
    (h : Serial config.charset (before.run (preamble config)) following gs imprints) :
    (before.run (preamble config :: following).flatten).paper = before.paper ++ imprints := by
  rw [List.flatten_cons, Printer.run_append, h.printing.paper, (rests_preamble config before).2]

theorem AllServed.characters {parts : List Part} {outputs : List (List Glyph × List Imprint)}
    (h : AllServed config parts outputs) :
    ∃ n, (outputs.flatMap Prod.fst).Perm
      (glyphs (parts.flatMap Part.runs) ++ List.replicate n blank) := by
  induction h with
  | nil => exact ⟨0, .nil⟩
  | @cons part output parts outputs hserved _ ih =>
    obtain ⟨n, hfirst⟩ := hserved.characters
    obtain ⟨m, hrest⟩ := ih
    refine ⟨n + m, List.perm_iff_count.2 fun g => ?_⟩
    have hcount := hfirst.count_eq g
    have hcount' := hrest.count_eq g
    rw [List.flatMap_cons, List.flatMap_cons, glyphs, List.flatMap_append, ← glyphs, ← glyphs,
      ← List.replicate_append_replicate]
    simp only [List.count_append] at hcount hcount' ⊢
    omega

end

/-- What becomes of the bytes of a receipt: the characters typed and the imprints of its parts. -/
structure Printout (config : Config) (es : List Element) (segments : List (List UInt8))
    (before after : Printer) (gs : List Glyph) (imprints : List (List Imprint)) : Prop where
  interpreted : before.interpret? segments.flatten = some after
  /-- After the preamble the commands type the characters one by one, each in its style and in the
  code page of the preamble. -/
  types : ∃ cs, Command.readAll? segments.flatten = some (preamble config ++ cs) ∧
    Types config.charset (before.run (preamble config)) cs gs
  /-- Every character of every run is typed once, and nothing else but blanks. -/
  characters : ∃ n, gs.Perm (glyphs (textRuns es) ++ List.replicate n blank)
  /-- What is typed is what stands on the paper. -/
  marks : imprints.flatten.flatMap Imprint.marks = gs.map config.charset.mark
  elements : (parts [] es).flatMap Part.elements = es
  prints : List.Forall₂ (Part.Prints config) (parts [] es) imprints
  paper : ∃ spaces : List Nat, spaces.sum = feedDots config config.feedLines ∧
    after.paper =
      before.paper ++ imprints.flatten ++ .line .left {} [] :: spaces.map .space
  /-- The printer is in the default style and in the code page after every segment. -/
  rests : ∀ k, 0 < k → ∃ p, before.interpret? (segments.take k).flatten = some p ∧
    config.charset.Rests p
  align : after.align = .left
  style : after.style = {}

/-- Whatever a printer was before, the bytes of `encode` come out as a `Printout`. -/
theorem exists_printout_of_encode {config : Config} {es : List Element}
    {segments : List (List UInt8)} (h : encode config es = .ok segments) (before : Printer) :
    ∃ after gs imprints, Printout config es segments before after gs imprints := by
  obtain ⟨sent, hsent, rfl⟩ := map_eq_ok_iff.1 h
  have hframed := allFramed_commandSegments hsent
  obtain ⟨following, outputs, spaces, rfl, hall, hsum, hserial, halign⟩ :=
    exists_serial_commandSegments hsent before
  have hrests := (rests_preamble config before).1
  have hrun : ∀ segments : List (List Command),
      before.run (preamble config :: segments).flatten =
        (before.run (preamble config)).run segments.flatten := fun _ => Printer.run_append _ _ _
  have hcharacters := hall.characters
  rw [flatMap_runs_parts] at hcharacters
  have hspaces : (spaces.map Imprint.space).flatMap Imprint.marks = [] :=
    List.flatMap_eq_nil_iff.2 (List.forall_mem_map.2 fun _ _ => rfl)
  have hmarks := hserial.printing.marks
  rw [List.flatMap_append, List.flatMap_cons, hspaces, Imprint.marks, List.append_nil,
    List.append_nil] at hmarks
  refine ⟨before.run (preamble config :: following).flatten, outputs.flatMap Prod.fst,
    outputs.map Prod.snd, ?_⟩
  exact {
    interpreted := interpret?_map_stream hframed before
    types := ⟨_, readAll?_flatten_map_stream hframed, hserial.printing.types⟩
    characters := hcharacters
    marks := by rw [← List.flatMap_def, hmarks]
    elements := flatMap_elements_parts [] es
    prints := List.forall₂_map_right_iff.2 (hall.imp fun _ _ hserved => hserved.prints)
    paper := ⟨spaces, hsum, by rw [paper_of_serial hserial, ← List.flatMap_def, List.append_assoc]⟩
    rests := fun k hk => by
      obtain ⟨k, rfl⟩ := Nat.exists_eq_succ_of_ne_zero (Nat.ne_of_gt hk)
      refine ⟨_, interpret?_take_map_stream hframed before _, ?_⟩
      rw [List.take_succ_cons, hrun]
      exact hserial.rests_take hrests k
    align := halign
    style := by
      rw [hrun]
      exact hserial.printing.rests.style }

/-- A bold amount on the left and a euro sign on the right share a line. -/
theorem exists_printout_of_amount :
    ∃ config es segments, Config.build { host := some "a".toList } = .ok config ∧
      es = [.text ⟨"5".toList, .left, { bold := true }, false⟩, .text (.line "€".toList .right),
        .feed 1] ∧
      encode config es = .ok segments ∧
      ∃ after gs imprints, Printout config es segments {} after gs imprints := by
  have hencode : encode
      ⟨{}, .full, true, true, Number.Single.zero, .gbk, .network "a".toList 9100 30⟩
      [.text ⟨"5".toList, .left, { bold := true }, false⟩, .text (.line "€".toList .right),
        .feed 1] = .ok _ := rfl
  exact ⟨_, _, _, rfl, rfl, hencode, exists_printout_of_encode hencode {}⟩

/-- The bytes of `encode` hold every number that was meant, and what they print `Fits` the paper and
the firmware. -/
theorem exists_fitting_imprints_of_encode {config : Config} {es : List Element}
    {segments : List (List UInt8)} (h : encode config es = .ok segments) (before : Printer) :
    ∃ sent after imprints, ∃ spaces : List Nat,
      commandSegments config config.feedLines es = .ok sent ∧
      segments = sent.map Command.stream ∧
      Command.readAll? segments.flatten = some sent.flatten ∧
      before.interpret? segments.flatten = some after ∧
      after.paper =
        before.paper ++ List.flatten imprints ++ .line .left {} [] :: spaces.map .space ∧
      List.Forall₂ (Part.Fits config) (parts [] es) imprints := by
  obtain ⟨sent, hsent, rfl⟩ := map_eq_ok_iff.1 h
  have hframed := allFramed_commandSegments hsent
  obtain ⟨following, outputs, spaces, rfl, hall, -, hserial, -⟩ :=
    exists_serial_commandSegments hsent before
  refine ⟨_, before.run (preamble config :: following).flatten, outputs.map Prod.snd, spaces, hsent,
    rfl, readAll?_flatten_map_stream hframed, interpret?_map_stream hframed before, ?_, ?_⟩
  · rw [paper_of_serial hserial, ← List.flatMap_def, List.append_assoc]
  · exact List.forall₂_map_right_iff.2 (hall.imp fun _ _ hserved => hserved.fits)

theorem exists_fitting_imprints_of_codes :
    ∃ config es segments, Config.build { host := some "a".toList } = .ok config ∧
      es = [.text ⟨List.replicate 20 'x', .left, { size := .wide }, true⟩,
        .barcode ⟨.ean8, "9638507".toList, Number.Single.ofNat 10, some (Number.Single.ofNat 60),
          .below, .center⟩,
        .qrCode ⟨"A".toList, 25, .center⟩] ∧
      encode config es = .ok segments ∧
      ∃ sent after imprints, ∃ spaces : List Nat,
        commandSegments config config.feedLines es = .ok sent ∧
        segments = sent.map Command.stream ∧
        Command.readAll? segments.flatten = some sent.flatten ∧
        ({} : Printer).interpret? segments.flatten = some after ∧
        after.paper = ({} : Printer).paper ++ List.flatten imprints ++
          .line .left {} [] :: spaces.map .space ∧
        List.Forall₂ (Part.Fits config) (parts [] es) imprints := by
  have hencode : encode
      ⟨{}, .full, true, true, Number.Single.zero, .gbk, .network "a".toList 9100 30⟩
      [.text ⟨List.replicate 20 'x', .left, { size := .wide }, true⟩,
        .barcode ⟨.ean8, "9638507".toList, Number.Single.ofNat 10, some (Number.Single.ofNat 60),
          .below, .center⟩,
        .qrCode ⟨"A".toList, 25, .center⟩] = .ok _ := rfl
  exact ⟨_, _, _, rfl, rfl, hencode, exists_fitting_imprints_of_encode hencode {}⟩

end ReceiptPrinter.Receipt

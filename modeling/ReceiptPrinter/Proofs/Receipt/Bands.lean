import ReceiptPrinter.Proofs.Receipt.Composition

/-!
# Pictures in bands

A picture is sent in bands of at most 128 rows. They are written into a `Builder`, with offsets into
the picture in words of 32 bits, and a segment is taken from it after each band. A picture that fits
is `SentInBands`: the bands hold its rows and its bytes once, whatever happens between them; as
segments of a receipt they are the bytes of the picture written at once; and of a picture that is
too wide nothing is written.
-/

namespace ReceiptPrinter

open Number Receipt

/-! ### Bands -/

/-- Rows of a picture that are sent together, and their bytes. -/
structure Band where
  rows : Nat
  data : List UInt8
  deriving DecidableEq, Repr

def Band.command (bitmap : Bitmap) (band : Band) : Command :=
  .raster bitmap.rowBytes band.rows band.data

/-- Whether `bands` are how `data` of so many rows is cut. -/
structure Banded (rowBytes rows : Nat) (data : List UInt8) (bands : List Band) : Prop where
  /-- As many bands as 128 goes into the rows, rounded up. -/
  length_eq : bands.length = (rows + 127) / 128
  full : ∀ band ∈ bands.dropLast, band.rows = 128
  bounds : ∀ band ∈ bands, 1 ≤ band.rows ∧ band.rows ≤ 128
  sum_eq : (bands.map Band.rows).sum = rows
  length_data : ∀ band ∈ bands, band.data.length = rowBytes * band.rows
  data_eq : bands.flatMap Band.data = data

/-- `rasterBandsFrom` splits rows and their bytes without a rest. -/
theorem exists_banded (bitmap : Bitmap) {first rows : Nat} (h : first + rows ≤ bitmap.height) :
    ∃ bands, Command.rasterBandsFrom bitmap first rows = bands.map (Band.command bitmap) ∧
      Banded bitmap.rowBytes rows
        ((bitmap.data.drop (first * bitmap.rowBytes)).take (rows * bitmap.rowBytes)) bands := by
  fun_induction Command.rasterBandsFrom bitmap first rows with
  | case1 first => exact ⟨[], rfl, by constructor <;> simp⟩
  | case2 first rows hrows ih =>
    have hbound : Command.bandRows = 128 := rfl
    have hmin : min rows Command.bandRows ≤ rows := Nat.min_le_left _ _
    obtain ⟨bands, hbands, hrest⟩ := ih (by omega)
    have hframed : (Command.rasterBand bitmap first (min rows Command.bandRows)).Framed :=
      Command.framed_rasterBand (by omega) (Nat.min_le_right _ _)
    refine ⟨⟨min rows Command.bandRows, _⟩ :: bands, by rw [hbands]; rfl, ?_⟩
    constructor
    case length_eq =>
      rw [List.length_cons, hrest.length_eq]
      omega
    case full =>
      -- there is a next band only if this one is full
      cases hnext : bands with
      | nil =>
        intro band hband
        exact absurd hband List.not_mem_nil
      | cons next more =>
        have hbounds := (hrest.bounds next (hnext ▸ List.mem_cons_self)).1
        have hsum := hrest.sum_eq
        rw [hnext, List.map_cons, List.sum_cons] at hsum
        rw [List.dropLast_cons_of_ne_nil (List.cons_ne_nil _ _), List.forall_mem_cons, ← hnext]
        have hfull : min rows Command.bandRows = 128 := by omega
        exact ⟨hfull, hrest.full⟩
    case bounds =>
      have hbounds : 1 ≤ min rows Command.bandRows ∧ min rows Command.bandRows ≤ 128 := by omega
      exact List.forall_mem_cons.2 ⟨hbounds, hrest.bounds⟩
    case sum_eq =>
      rw [List.map_cons, List.sum_cons, hrest.sum_eq]
      exact Nat.add_sub_cancel' hmin
    case length_data => exact List.forall_mem_cons.2 ⟨hframed.2.2, hrest.length_data⟩
    case data_eq =>
      rw [List.flatMap_cons, hrest.data_eq, Nat.add_mul, ← List.drop_drop, ← List.take_add,
        ← Nat.add_mul, Nat.add_sub_cancel' hmin]

theorem exists_banded_bitmap (bitmap : Bitmap) :
    ∃ bands, Command.rasterBands bitmap = bands.map (Band.command bitmap) ∧
      Banded bitmap.rowBytes bitmap.height bitmap.data bands := by
  have hwhole : 0 + bitmap.height ≤ bitmap.height := Nat.le_of_eq (Nat.zero_add _)
  obtain ⟨bands, hbands, hbanded⟩ := exists_banded bitmap hwhole
  have hlength : bitmap.data.length ≤ bitmap.height * bitmap.rowBytes :=
    Nat.le_of_eq (bitmap.data_length.trans (Nat.mul_comm _ _))
  rw [Nat.zero_mul, List.drop_zero, List.take_of_length_le hlength] at hbanded
  exact ⟨bands, hbands, hbanded⟩

theorem Banded.ne_nil {rowBytes rows : Nat} {data : List UInt8} {bands : List Band}
    (h : Banded rowBytes rows data bands) (hrows : 1 ≤ rows) : bands ≠ [] := by
  rintro rfl
  have hlength := h.length_eq
  rw [List.length_nil] at hlength
  omega

/-! ### Writing -/

/-- The bytes that are written, and the segments that have been taken. -/
structure Builder where
  buffer : List UInt8 := []
  segments : List (List UInt8) := []
  deriving DecidableEq, Repr

namespace Builder

def write (b : Builder) (bytes : List UInt8) : Builder := { b with buffer := b.buffer ++ bytes }

def take (b : Builder) : Builder :=
  if b.buffer.isEmpty then b else ⟨[], b.segments ++ [b.buffer]⟩

/-- The bytes from `start` to `stop`; none if they are not there. -/
def slice? (data : List UInt8) (start stop : Nat) : Option (List UInt8) :=
  if start ≤ stop ∧ stop ≤ data.length then some ((data.take stop).drop start) else none

def lowHigh (n : UInt32) : List UInt8 := [(n &&& 0xFF).toUInt8, (n >>> 8).toUInt8]

/-- Writes `rows` rows of a bitmap from `first` on as one command. -/
def writeBand? (bitmap : Bitmap) (first rows : UInt32) (b : Builder) : Option Builder :=
  let rowBytes := UInt32.ofNat bitmap.rowBytes
  (slice? bitmap.data (first * rowBytes).toNat ((first + rows) * rowBytes).toNat).map fun data =>
    b.write ([0x1D, 0x76, 0x30, 0x00] ++ lowHigh rowBytes ++ lowHigh rows ++ data)

theorem lowHigh_eq (n : UInt32) : lowHigh n = Command.word n.toNat := by
  have hlow : (n &&& 0xFF).toUInt8 = UInt8.ofNat n.toNat := by
    rw [← UInt8.toNat_inj, UInt32.toNat_toUInt8, UInt32.toNat_and, UInt8.toNat_ofNat']
    show (n.toNat &&& 2 ^ 8 - 1) % 2 ^ 8 = n.toNat % 2 ^ 8
    rw [Nat.and_two_pow_sub_one_eq_mod, Nat.mod_mod]
  have hhigh : (n >>> 8).toUInt8 = UInt8.ofNat (n.toNat / 256) := by
    rw [← UInt8.toNat_inj, UInt32.toNat_toUInt8, UInt32.toNat_shiftRight, UInt8.toNat_ofNat']
    show n.toNat >>> 8 % 2 ^ 8 = n.toNat / 2 ^ 8 % 2 ^ 8
    rw [Nat.shiftRight_eq_div_pow]
  rw [lowHigh, hlow, hhigh]
  rfl

theorem toNat_height (bitmap : Bitmap) : (UInt32.ofNat bitmap.height).toNat = bitmap.height := by
  have hle := bitmap.height_le
  rw [UInt32.toNat_ofNat']
  omega

theorem toNat_rowBytes (bitmap : Bitmap) :
    (UInt32.ofNat bitmap.rowBytes).toNat = bitmap.rowBytes := by
  have hle := Command.rowBytes_le bitmap
  rw [UInt32.toNat_ofNat']
  omega

theorem toNat_offset (bitmap : Bitmap) {row : UInt32} (h : row.toNat ≤ bitmap.height) :
    (row * UInt32.ofNat bitmap.rowBytes).toNat = row.toNat * bitmap.rowBytes := by
  have hheight := bitmap.height_le
  have hbytes := Command.rowBytes_le bitmap
  have hmul : row.toNat * bitmap.rowBytes ≤ 65535 * 8192 :=
    Nat.mul_le_mul (Nat.le_trans h hheight) hbytes
  rw [UInt32.toNat_mul, toNat_rowBytes]
  omega

theorem writeBand?_eq (bitmap : Bitmap) {first rows : UInt32} (b : Builder)
    (hsum : (first + rows).toNat = first.toNat + rows.toNat)
    (h : first.toNat + rows.toNat ≤ bitmap.height) :
    b.writeBand? bitmap first rows =
      some (b.write (Command.rasterBand bitmap first.toNat rows.toNat).bytes) := by
  have hlength : bitmap.data.length = bitmap.rowBytes * bitmap.height := bitmap.data_length
  have hfirst : first.toNat ≤ bitmap.height := by omega
  have hlast : (first + rows).toNat ≤ bitmap.height := by omega
  have hstart := toNat_offset bitmap hfirst
  have hstop := toNat_offset bitmap hlast
  rw [hsum] at hstop
  have hwithin : (first.toNat + rows.toNat) * bitmap.rowBytes ≤ bitmap.data.length := by
    rw [hlength, Nat.mul_comm bitmap.rowBytes]
    exact Nat.mul_le_mul_right _ h
  have hle : first.toNat * bitmap.rowBytes ≤ (first.toNat + rows.toNat) * bitmap.rowBytes :=
    Nat.mul_le_mul_right _ (Nat.le_add_right _ _)
  rw [writeBand?]
  simp only [hstart, hstop, slice?, lowHigh_eq, toNat_rowBytes]
  rw [if_pos ⟨hle, hwithin⟩, Option.map_some, List.drop_take, Nat.add_mul,
    Nat.add_sub_cancel_left]
  rfl

/-- Rows in the band that starts at `row`. -/
def rowsFrom (bitmap : Bitmap) (row : UInt32) : UInt32 :=
  min (UInt32.ofNat bitmap.height - row) 128

theorem toNat_rowsFrom (bitmap : Bitmap) {row : UInt32} (h : row < UInt32.ofNat bitmap.height) :
    (rowsFrom bitmap row).toNat = min (bitmap.height - row.toNat) 128 := by
  have hrest : (UInt32.ofNat bitmap.height - row).toNat = bitmap.height - row.toNat := by
    rw [UInt32.toNat_sub_of_le _ _ (UInt32.le_of_lt h), toNat_height]
  rw [← hrest]
  show (if _ then _ else _ : UInt32).toNat = _
  split
  · next hle =>
    rw [UInt32.le_iff_toNat_le] at hle
    exact (Nat.min_eq_left hle).symm
  · next hlt =>
    rw [UInt32.le_iff_toNat_le] at hlt
    exact (Nat.min_eq_right (Nat.le_of_not_le hlt)).symm

theorem toNat_add_rowsFrom (bitmap : Bitmap) {row : UInt32}
    (h : row < UInt32.ofNat bitmap.height) :
    (row + rowsFrom bitmap row).toNat = row.toNat + min (bitmap.height - row.toNat) 128 := by
  have hheight := bitmap.height_le
  have hlt := UInt32.lt_iff_toNat_lt.1 h
  rw [toNat_height] at hlt
  rw [UInt32.toNat_add, toNat_rowsFrom bitmap h]
  omega

theorem writeBand?_rowsFrom (bitmap : Bitmap) {row : UInt32} (b : Builder)
    (h : row < UInt32.ofNat bitmap.height) :
    b.writeBand? bitmap row (rowsFrom bitmap row) =
      some (b.write (Command.rasterBand bitmap row.toNat
        (min (bitmap.height - row.toNat) Command.bandRows)).bytes) := by
  have hrows := toNat_rowsFrom bitmap h
  have hnext := toNat_add_rowsFrom bitmap h
  have hlt := UInt32.lt_iff_toNat_lt.1 h
  rw [toNat_height] at hlt
  rw [writeBand?_eq bitmap b (by omega) (by omega), hrows]
  rfl

/-- Writes a bitmap from `row` on, band by band; `done` is run after each band. -/
def writeBands? (done : Builder → Builder) (bitmap : Bitmap) (row : UInt32) (b : Builder) :
    Option Builder :=
  if row < UInt32.ofNat bitmap.height then
    match b.writeBand? bitmap row (rowsFrom bitmap row) with
    | none => none
    | some b => writeBands? done bitmap (row + rowsFrom bitmap row) (done b)
  else some b
termination_by bitmap.height - row.toNat
decreasing_by
  have hnext := toNat_add_rowsFrom bitmap ‹_›
  have hlt := UInt32.lt_iff_toNat_lt.1 ‹row < _›
  rw [toNat_height] at hlt
  omega

def writeBitmap? (bitmap : Bitmap) (b : Builder) : Option Builder := b.writeBands? id bitmap 0

def writeDone (done : Builder → Builder) (b : Builder) (c : Command) : Builder :=
  done (b.write c.bytes)

/-- The loop of `writeBands?` writes the commands of `rasterBandsFrom`: no offset leaves 32 bits. -/
theorem writeBands?_eq (done : Builder → Builder) (bitmap : Bitmap) (row : UInt32) (b : Builder)
    (h : row.toNat ≤ bitmap.height) :
    b.writeBands? done bitmap row =
      some ((Command.rasterBandsFrom bitmap row.toNat (bitmap.height - row.toNat)).foldl
        (writeDone done) b) := by
  fun_induction writeBands? done bitmap row b with
  | case1 row b hlt hnone =>
    rw [writeBand?_rowsFrom bitmap b hlt] at hnone
    cases hnone
  | case2 row b hlt b' hsome ih =>
    have hnext := toNat_add_rowsFrom bitmap hlt
    rw [writeBand?_rowsFrom bitmap b hlt] at hsome
    cases hsome
    rw [UInt32.lt_iff_toNat_lt, toNat_height] at hlt
    rw [ih (by omega), Command.rasterBandsFrom.eq_def bitmap row.toNat, if_neg (by omega),
      List.foldl_cons, hnext, Nat.sub_add_eq]
    rfl
  | case3 row b hlast =>
    rw [UInt32.lt_iff_toNat_lt, toNat_height] at hlast
    rw [Nat.sub_eq_zero_of_le (by omega), Command.rasterBandsFrom]
    rfl

theorem foldl_writeDone_id (cs : List Command) (b : Builder) :
    cs.foldl (writeDone id) b = b.write (Command.stream cs) := by
  induction cs generalizing b with
  | nil => simp [write, Command.stream]
  | cons c cs ih =>
    rw [List.foldl_cons, ih]
    simp [writeDone, write, Command.stream]

theorem foldl_writeDone_take (cs : List Command) (segments : List (List UInt8)) :
    cs.foldl (writeDone take) ⟨[], segments⟩ = ⟨[], segments ++ cs.map Command.bytes⟩ := by
  induction cs generalizing segments with
  | nil => rw [List.map_nil, List.append_nil, List.foldl_nil]
  | cons c cs ih =>
    have hfirst : writeDone take ⟨[], segments⟩ c = ⟨[], segments ++ [c.bytes]⟩ := by
      simp [writeDone, write, take, c.bytes_ne_nil]
    rw [List.foldl_cons, hfirst, ih, List.append_assoc]
    rfl

end Builder

/-! ### Pictures -/

namespace Picture

/-- Writes a picture under its alignment; one that is too wide is not begun. -/
def write? (config : Config) (done : Builder → Builder) (p : Picture) (b : Builder) :
    Option (Except EncodingError Unit × Builder) :=
  if p.bitmap.width > config.printableDots then
    some (.error (.pictureTooWide p.bitmap.width config.printableDots), b)
  else
    ((b.write (Command.align p.align).bytes).writeBands? done p.bitmap 0).map fun b => (.ok (), b)

/-- The bytes of the bands of `p`. -/
def bandBytes (p : Picture) (bands : List Band) : List (List UInt8) :=
  bands.map fun band => (band.command p.bitmap).bytes

/-- `bandBytes`, the first of them after the bytes of the alignment. -/
def bandSegments (p : Picture) (bands : List Band) : List (List UInt8) :=
  match p.bandBytes bands with
  | [] => []
  | first :: rest => ((Command.align p.align).bytes ++ first) :: rest

/-- Whether `p` is sent in `bands`. -/
structure SentInBands (config : Config) (p : Picture) (bands : List Band) : Prop where
  /-- The bands are full up to the last one and hold the rows and the bytes of the picture. -/
  banded : Banded p.bitmap.rowBytes p.bitmap.height p.bitmap.data bands
  /-- A band is its header and its bytes; the header holds bytes in a row, rounded up, and rows. -/
  header : ∀ band ∈ bands, ∃ w w' h h' : UInt8,
    (band.command p.bitmap).bytes = [0x1D, 0x76, 0x30, 0x00, w, w', h, h'] ++ band.data ∧
    Command.ofWord w w' = (p.bitmap.width + 7) / 8 ∧ Command.ofWord h h' = band.rows
  /-- The bands are written one after the other, whatever is done after each of them. -/
  written : ∀ done b, p.write? config done b = some (.ok (),
    (bands.map (Band.command p.bitmap)).foldl (Builder.writeDone done)
      (b.write (Command.align p.align).bytes))
  /-- Each band is a segment if a segment is taken after each of them. -/
  taken : p.write? config .take {} = some (.ok (), ⟨[], p.bandSegments bands⟩)
  /-- Their bytes after the alignment are those of the bitmap written at once. -/
  atOnce : ∃ bytes, ({} : Builder).writeBitmap? p.bitmap = some ⟨bytes, []⟩ ∧
    (p.bandSegments bands).flatten = (Command.align p.align).bytes ++ bytes
  /-- In a receipt the segments stand where the picture stands between other elements. -/
  encoded : ∀ feedLines before after first second,
    encodeWithFeed config feedLines before = .ok first →
    encodeWithFeed config feedLines after = .ok second →
    encodeWithFeed config feedLines (before ++ .picture p :: after) =
      .ok (first.dropLast ++ p.bandSegments bands ++ second.tail)

section
variable {config : Config} {p : Picture} {bands : List Band}

theorem write?_eq (hfits : p.bitmap.width ≤ config.printableDots)
    (hbands : Command.rasterBands p.bitmap = bands.map (Band.command p.bitmap))
    (done : Builder → Builder) (b : Builder) :
    p.write? config done b = some (.ok (),
      (bands.map (Band.command p.bitmap)).foldl (Builder.writeDone done)
        (b.write (Command.align p.align).bytes)) := by
  rw [write?, if_neg (Nat.not_lt.2 hfits), Builder.writeBands?_eq _ _ _ _ (Nat.zero_le _),
    ← hbands]
  rfl

theorem stream_bands (p : Picture) (bands : List Band) :
    Command.stream (bands.map (Band.command p.bitmap)) = (p.bandBytes bands).flatten := by
  rw [Command.stream, List.flatMap_map, List.flatMap_def]
  rfl

theorem writeBitmap?_eq (hbands : Command.rasterBands p.bitmap = bands.map (Band.command p.bitmap))
    (b : Builder) : b.writeBitmap? p.bitmap = some (b.write (p.bandBytes bands).flatten) := by
  rw [Builder.writeBitmap?, Builder.writeBands?_eq _ _ _ _ (Nat.zero_le _),
    Builder.foldl_writeDone_id, ← stream_bands, ← hbands]
  rfl

theorem write?_take (hfits : p.bitmap.width ≤ config.printableDots)
    (hbands : Command.rasterBands p.bitmap = bands.map (Band.command p.bitmap))
    (hne : bands ≠ []) :
    p.write? config .take {} = some (.ok (), ⟨[], p.bandSegments bands⟩) := by
  rw [write?_eq hfits hbands]
  cases bands with
  | nil => exact absurd rfl hne
  | cons band bands =>
    have hfirst : Builder.writeDone .take (({} : Builder).write (Command.align p.align).bytes)
        (band.command p.bitmap) =
          ⟨[], [(Command.align p.align).bytes ++ (band.command p.bitmap).bytes]⟩ := by
      simp [Builder.writeDone, Builder.write, Builder.take, Command.bytes_ne_nil]
    rw [List.map_cons, List.foldl_cons, hfirst, Builder.foldl_writeDone_take, List.map_map]
    rfl

theorem flatten_bandSegments (hne : bands ≠ []) :
    (p.bandSegments bands).flatten =
      (Command.align p.align).bytes ++ (p.bandBytes bands).flatten := by
  cases bands with
  | nil => exact absurd rfl hne
  | cons band bands => exact List.append_assoc _ _ _

theorem map_segments_eq (hfits : p.bitmap.width ≤ config.printableDots)
    (hbands : Command.rasterBands p.bitmap = bands.map (Band.command p.bitmap))
    (hne : bands ≠ []) :
    ((p.segments config).map fun segments =>
      (segments.filter (!·.isEmpty)).map Command.stream) = .ok (p.bandSegments bands) := by
  rw [segments, if_neg (Nat.not_lt.2 hfits), hbands]
  cases bands with
  | nil => exact absurd rfl hne
  | cons band bands =>
    show Except.ok (List.map _ (List.filter _ _)) = _
    rw [List.filter_eq_self.2 (by simp)]
    simp [bandSegments, bandBytes, Command.stream]

theorem header_command (p : Picture) {band : Band} (hrows : band.rows ≤ 128) :
    ∃ w w' h h' : UInt8,
      (band.command p.bitmap).bytes = [0x1D, 0x76, 0x30, 0x00, w, w', h, h'] ++ band.data ∧
      Command.ofWord w w' = (p.bitmap.width + 7) / 8 ∧ Command.ofWord h h' = band.rows := by
  have hbytes := Command.rowBytes_le p.bitmap
  refine ⟨_, _, _, _, rfl, ?_, ?_⟩
  · exact Command.ofWord_word (by omega)
  · exact Command.ofWord_word (by omega)

theorem encodeWithFeed_append_picture (hfits : p.bitmap.width ≤ config.printableDots)
    (hbands : Command.rasterBands p.bitmap = bands.map (Band.command p.bitmap))
    (hne : bands ≠ []) {feedLines : Single} {before after : List Element}
    {first second : List (List UInt8)} (hfirst : encodeWithFeed config feedLines before = .ok first)
    (hsecond : encodeWithFeed config feedLines after = .ok second) :
    encodeWithFeed config feedLines (before ++ .picture p :: after) =
      .ok (first.dropLast ++ p.bandSegments bands ++ second.tail) := by
  rw [encodeWithFeed_eq] at hfirst hsecond ⊢
  obtain ⟨x, hx, rfl⟩ := map_eq_ok_iff.1 hfirst
  obtain ⟨y, hy, rfl⟩ := map_eq_ok_iff.1 hsecond
  have hblock := map_segments_eq hfits hbands hne
  rw [body_append_block config before (by nofun), hx, hy, blockSegments, hblock]
  show Except.ok _ = Except.ok _
  rw [List.dropLast_concat]
  simp

/-- A receipt with a picture that is too wide fails, even if all before it can be encoded. -/
theorem encodeWithFeed_too_wide (hwide : config.printableDots < p.bitmap.width)
    {feedLines : Single} {before : List Element} {first : List (List UInt8)}
    (hfirst : encodeWithFeed config feedLines before = .ok first) (after : List Element) :
    encodeWithFeed config feedLines (before ++ .picture p :: after) =
      .error (.pictureTooWide p.bitmap.width config.printableDots) := by
  rw [encodeWithFeed_eq] at hfirst ⊢
  obtain ⟨x, hx, -⟩ := map_eq_ok_iff.1 hfirst
  rw [body_append_block config before (by nofun), hx, blockSegments, segments, if_pos hwide]
  rfl

end

/-- A picture that fits is `SentInBands`. One that is wider than `printableDots` is refused before
anything is written, and so is every receipt that comes to it. -/
theorem sentInBands (config : Config) (p : Picture) :
    (p.bitmap.width ≤ config.printableDots → ∃ bands, SentInBands config p bands) ∧
    (config.printableDots < p.bitmap.width →
      (∀ done b, p.write? config done b =
        some (.error (.pictureTooWide p.bitmap.width config.printableDots), b)) ∧
      ∀ feedLines before first after, encodeWithFeed config feedLines before = .ok first →
        encodeWithFeed config feedLines (before ++ .picture p :: after) =
          .error (.pictureTooWide p.bitmap.width config.printableDots)) := by
  constructor
  · intro hfits
    obtain ⟨bands, hbands, hbanded⟩ := exists_banded_bitmap p.bitmap
    have hne := hbanded.ne_nil p.bitmap.height_pos
    refine ⟨bands, ?_⟩
    constructor
    case banded => exact hbanded
    case header => exact fun band hband => header_command p (hbanded.bounds band hband).2
    case written => exact write?_eq hfits hbands
    case taken => exact write?_take hfits hbands hne
    case atOnce => exact ⟨_, writeBitmap?_eq hbands {}, flatten_bandSegments hne⟩
    case encoded =>
      intro feedLines before after first second hfirst hsecond
      exact encodeWithFeed_append_picture hfits hbands hne hfirst hsecond
  · intro hwide
    refine ⟨fun done b => if_pos hwide, ?_⟩
    intro feedLines before first after hfirst
    exact encodeWithFeed_too_wide hwide hfirst after

def tall : Picture :=
  { bitmap := ⟨8, 129, List.replicate 129 0xAA, by decide, by decide, by decide, by decide,
      List.length_replicate⟩ }

def wide : Picture :=
  { bitmap := ⟨8000, 1, List.replicate 1000 0xAA, by decide, by decide, by decide, by decide,
      List.length_replicate⟩ }

theorem sentInBands_tall_and_wide :
    ∃ config first, Config.build { host := some "a".toList } = .ok config ∧
      tall.bitmap.width ≤ config.printableDots ∧ config.printableDots < wide.bitmap.width ∧
      encodeWithFeed config (Single.ofNat 1) [] = .ok first ∧
      (∃ bands, SentInBands config tall bands ∧ bands.length = 2 ∧
        encodeWithFeed config (Single.ofNat 1) [.picture tall] =
          .ok (first.dropLast ++ tall.bandSegments bands ++ first.tail)) ∧
      encodeWithFeed config (Single.ofNat 1) [.picture wide] =
        .error (.pictureTooWide wide.bitmap.width config.printableDots) := by
  let config : Config := ⟨{}, .full, true, true, Single.zero, .gbk, .network "a".toList 9100 30⟩
  have hfirst : encodeWithFeed config (Single.ofNat 1) [] = .ok _ := rfl
  have hdots : config.printableDots = 384 := rfl
  have hfits : tall.bitmap.width ≤ config.printableDots := by rw [hdots]; decide
  have hwide : config.printableDots < wide.bitmap.width := by rw [hdots]; decide
  obtain ⟨bands, hbands⟩ := (sentInBands config tall).1 hfits
  obtain ⟨-, hrefused⟩ := (sentInBands config wide).2 hwide
  have hlength : bands.length = 2 := hbands.banded.length_eq
  exact ⟨config, _, rfl, hfits, hwide, hfirst,
    ⟨bands, hbands, hlength, hbands.encoded _ [] [] _ _ hfirst hfirst⟩,
    hrefused _ [] _ [] hfirst⟩

end Picture

end ReceiptPrinter

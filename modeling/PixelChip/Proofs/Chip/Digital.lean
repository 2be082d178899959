import Mathlib.Data.List.Nodup
import Mathlib.Data.List.ProdSigma
import PixelChip.Proofs.Chip.Batches
import PixelChip.Proofs.Chip.BitField
import PixelChip.Proofs.Chip.Output
import PixelChip.Random.Draw

/-!
# A digital trigger reports the enabled pixels

Where injections are digital every enabled pixel answers with the same time, so that a trigger is a
picture of the matrix.  Nothing random is drawn, and handing the generator through the scan leaves
plain lists (`Scan.hits_digital`): the quads of the matrix in raster order, less those of core
columns that are off and those without an enabled pixel.  A hit keeps the place of its quad
(`Hit.quadCol_at`, `Hit.row_at`), from which follows what the pixels of all hits are.
-/

namespace PixelChip

/-! ## The place of a hit -/

lemma Hit.quadCol_at {quadCol : Nat} (hquad : quadCol < 100) (row : UInt16)
    (tots : Quad UInt8) : (Hit.at (.ofNat quadCol) row tots).quadCol = quadCol := by
  simp only [Hit.quadCol, Hit.at, UInt8.toNat_ofNat', UInt16.toNat_ofNat']
  omega

lemma Hit.row_at {row : Nat} (quadCol : UInt16) (hrow : row < 192) (tots : Quad UInt8) :
    (Hit.at quadCol (.ofNat row) tots).row = row := by
  have hcore : (Hit.at quadCol (.ofNat row) tots).coreRow.toNat = row / 8 := by
    simp only [Hit.at, UInt8.toNat_ofNat', UInt16.toNat_ofNat']
    omega
  have hregion : (Hit.at quadCol (.ofNat row) tots).coreRegion.toNat / 2 = row % 8 := by
    simp only [Hit.at, UInt8.toNat_ofNat', UInt16.toNat_ofNat']
    omega
  have hlow : row % 8 < 2 ^ 3 := Nat.mod_lt row (Nat.zero_lt_succ 7)
  calc
    (Hit.at quadCol (.ofNat row) tots).row = 2 ^ 3 * (row / 8) ||| row % 8 := by
      rw [Hit.row, hcore, hregion]
    _ = 2 ^ 3 * (row / 8) + row % 8 := (Nat.two_pow_add_eq_or_of_lt hlow _).symm
    _ = row := Nat.div_add_mod row 8

/-- Quad column and row of a hit. -/
def Hit.place (hit : Hit) : Nat × Nat :=
  (hit.quadCol, hit.row)

lemma Hit.place_at {quadCol row : Nat} (hquad : quadCol < 100) (hrow : row < 192)
    (tots : Quad UInt8) : (Hit.at (.ofNat quadCol) (.ofNat row) tots).place = (quadCol, row) :=
  Prod.ext (Hit.quadCol_at hquad _ tots) (Hit.row_at _ hrow tots)

/-! ## What is enabled -/

/-- Whether there is a pixel at a column and row that is enabled. -/
def Matrix.isOn (matrix : Matrix) (col row : Nat) : Bool :=
  (matrix.pixel? col row).any Pixel.enabled

/-- Only pixels of the matrix are enabled. -/
lemma Matrix.lt_of_isOn {matrix : Matrix} {col row : Nat} (h : matrix.isOn col row = true) :
    col < 400 ∧ row < 192 := by
  unfold isOn at h
  by_contra hout
  rw [matrix.pixel?_of_outside hout] at h
  exact absurd h (by simp)

/-- Whether a core column is enabled, by the bits of the registers. -/
def RegisterFile.coreColIsOn (registers : RegisterFile) (coreCol : Nat) : Bool :=
  if coreCol ≤ 15 then (registers.get 32).toNat.testBit coreCol
  else if coreCol ≤ 31 then (registers.get 33).toNat.testBit (coreCol - 16)
  else if coreCol = 32 then (registers.get 34).toNat.testBit 0
  else if coreCol ≤ 48 then (registers.get 35).toNat.testBit (coreCol - 33)
  else if coreCol = 49 then (registers.get 36).toNat.testBit 0
  else false

/-- The bits of a field are bits of its register. -/
lemma RegisterFile.testBit_field (registers : RegisterFile) {field : Field} {place : Nat}
    (hwidth : place < field.width) (hplace : place < 16) :
    (registers.field field).toNat.testBit place =
      (registers.get field.address).toNat.testBit (field.start + place) := by
  have hbit := registers.getLsbD_field field hplace
  rw [decide_eq_true hwidth, Bool.and_true] at hbit
  exact hbit

namespace Detector

/-- A core column is enabled by the bit that is its enable bit. -/
lemma coreColEnabled_of_enableBit (registers : RegisterFile) (field : Field) (place : Nat)
    {coreCol : Nat} (hbit : enableBit coreCol = (field, place)) (hwidth : place < field.width)
    (hplace : place < 16) (hstart : field.start = 0) :
    coreColEnabled registers coreCol = (registers.get field.address).toNat.testBit place := by
  have hregister := registers.testBit_field hwidth hplace
  rw [hstart, Nat.zero_add] at hregister
  rw [coreColEnabled, hbit]
  exact hregister

/-- The enable bit of a core column is where the registers have it. -/
lemma coreColEnabled_eq (registers : RegisterFile) {coreCol : Nat} (h : coreCol < 50) :
    coreColEnabled registers coreCol = registers.coreColIsOn coreCol := by
  unfold RegisterFile.coreColIsOn
  split_ifs with hsync hlin1 hlin2 hdiff1 hdiff2
  · have hplace : coreCol < 16 := Nat.lt_succ_of_le hsync
    exact coreColEnabled_of_enableBit registers .enCoreColSync coreCol (if_pos hsync) hplace
      hplace rfl
  · have hplace : coreCol - 16 < 16 := by omega
    refine coreColEnabled_of_enableBit registers .enCoreColLin1 (coreCol - 16) ?_ hplace hplace rfl
    rw [enableBit, if_neg hsync, if_pos hlin1]
  · refine coreColEnabled_of_enableBit registers .enCoreColLin2 0 ?_ Nat.zero_lt_one
      (Nat.zero_lt_succ 15) rfl
    rw [hlin2]
    rfl
  · have hplace : coreCol - 33 < 16 := by omega
    refine coreColEnabled_of_enableBit registers .enCoreColDiff1 (coreCol - 33) ?_ hplace hplace rfl
    rw [enableBit, if_neg hsync, if_neg hlin1, if_neg (by omega), if_pos hdiff1]
  · refine coreColEnabled_of_enableBit registers .enCoreColDiff2 0 ?_ Nat.zero_lt_one
      (Nat.zero_lt_succ 15) rfl
    rw [hdiff2]
    rfl
  · exact absurd h (by omega)

end Detector

/-! ## The scan -/

namespace Scan

variable {G : Type}

/-- A step that leaves the state as it is leaves nothing to hand through. -/
lemma through_of_keeps {α β σ : Type} {step : α → σ → β × σ} {f : α → β}
    (h : ∀ a state, step a state = (f a, state)) (inputs : List α) (state : σ) :
    through step inputs state = (inputs.map f, state) := by
  induction inputs with
  | nil => rfl
  | cons a inputs ih => simp only [through, h, ih, List.map_cons]

/-- Two nested loops with conditions are one loop over pairs. -/
lemma flatMap_filter_map {α β γ : Type} (p : α → Bool) (q : α → β → Bool) (f : α → β → γ)
    (outer : List α) (inner : List β) :
    ((outer.filter p).flatMap fun a => (inner.filter (q a)).map (f a)) =
      ((outer ×ˢ inner).filter fun (a, b) => p a && q a b).map fun (a, b) => f a b := by
  induction outer with
  | nil => rfl
  | cons a outer ih =>
      rw [List.product_cons, List.filter_append, List.map_append, ← ih, List.filter_map,
        List.map_map]
      cases hp : p a with
      | true =>
          rw [List.filter_cons_of_pos hp, List.flatMap_cons]
          simp [hp, Function.comp_def]
      | false =>
          rw [List.filter_cons_of_neg (by simp [hp])]
          simp [hp, Function.comp_def]

/-- The quads of the matrix in the order in which they are read: by quad column, and in each of them
by row. -/
def raster : List (Nat × Nat) :=
  List.range 100 ×ˢ List.range 192

lemma mem_raster {quadCol row : Nat} : (quadCol, row) ∈ raster ↔ quadCol < 100 ∧ row < 192 := by
  rw [raster, List.mem_product, List.mem_range, List.mem_range]

lemma nodup_raster : raster.Nodup :=
  List.Nodup.product List.nodup_range List.nodup_range

/-- Two quad columns belong to each core column. -/
lemma quadColumns_filter_range (p : Nat → Bool) (n : Nat) :
    quadColumns ((List.range n).filter p) =
      (List.range (2 * n)).filter fun quadCol => p (quadCol / 2) := by
  induction n with
  | zero => rfl
  | succ n ih =>
      have hfirst : 2 * n / 2 = n := by omega
      have hsecond : (2 * n + 1) / 2 = n := by omega
      rw [Nat.mul_succ, List.range_succ, List.range_succ, List.range_succ, quadColumns,
        List.filter_append, List.flatMap_append, ← quadColumns, ih, List.filter_append,
        List.filter_append, List.append_assoc]
      congr 1
      cases hp : p n <;> simp [hp, hfirst, hsecond]

/-- Whether a quad has an enabled pixel. -/
def quadIsOn (matrix : Matrix) (quadCol row : Nat) : Bool :=
  (List.range 4).any fun slot => matrix.isOn (4 * quadCol + slot) row

/-- The answer of a pixel to a digital injection. -/
def digitalAnswer (matrix : Matrix) (col row : Nat) : UInt8 :=
  if matrix.isOn col row then 4 else 0

/-- The hit of a quad whose enabled pixels answer to a digital injection. -/
def digitalHit (matrix : Matrix) (quadCol row : Nat) : Hit :=
  Hit.at (.ofNat quadCol) (.ofNat row)
    { p0 := digitalAnswer matrix (4 * quadCol) row
      p1 := digitalAnswer matrix (4 * quadCol + 1) row
      p2 := digitalAnswer matrix (4 * quadCol + 2) row
      p3 := digitalAnswer matrix (4 * quadCol + 3) row }

/-- How every pixel answers to a digital injection. -/
def digitalResponse : Response G := fun _ _ _ generator => (4, generator)

lemma pixel_digital (matrix : Matrix) (col row : Nat) (generator : G) :
    pixel digitalResponse matrix col row generator =
      (digitalAnswer matrix col row, generator) := by
  unfold pixel digitalAnswer Matrix.isOn
  cases hpixel : matrix.pixel? col row with
  | none => rfl
  | some found => cases henabled : found.enabled <;> simp [henabled, digitalResponse]

lemma hit?_digital (matrix : Matrix) (quadCol row : Nat) (generator : G) :
    hit? digitalResponse matrix quadCol row generator =
      (if quadIsOn matrix quadCol row then some (digitalHit matrix quadCol row) else none,
        generator) := by
  have hall : ∀ p0 p1 p2 p3 : Bool,
      ((⟨if p0 then 4 else 0, if p1 then 4 else 0, if p2 then 4 else 0, if p3 then 4 else 0⟩ :
          Quad UInt8).toList.all (· = 0)) = !(p0 || p1 || p2 || p3) := by
    decide
  have hon : quadIsOn matrix quadCol row =
      (matrix.isOn (4 * quadCol) row || matrix.isOn (4 * quadCol + 1) row ||
        matrix.isOn (4 * quadCol + 2) row || matrix.isOn (4 * quadCol + 3) row) := by
    simp [quadIsOn, List.range_succ, Bool.or_assoc]
  simp only [hit?, quad, pixel_digital, digitalAnswer, hall, ← hon]
  cases quadIsOn matrix quadCol row <;> rfl

lemma column_digital (matrix : Matrix) (quadCol : Nat) (generator : G) :
    column digitalResponse matrix quadCol generator =
      (((List.range 192).filter (quadIsOn matrix quadCol)).map (digitalHit matrix quadCol),
        generator) := by
  simp only [column, through_of_keeps (hit?_digital matrix quadCol), List.filterMap_map,
    Function.id_comp]
  rw [← List.filterMap_eq_map, List.filterMap_filter]
  rfl

/-- **A digital scan** gives the hits of the quads that are on, in raster order. -/
lemma hits_digital (matrix : Matrix) (p : Nat → Bool) (generator : G) :
    hits digitalResponse matrix ((List.range 50).filter p) generator =
      ((raster.filter fun (quadCol, row) => p (quadCol / 2) && quadIsOn matrix quadCol row).map
          fun (quadCol, row) => digitalHit matrix quadCol row,
        generator) := by
  simp only [hits, through_of_keeps (column_digital matrix), quadColumns_filter_range,
    ← List.flatMap_def]
  rw [flatMap_filter_map]
  rfl

/-- The pixels of a hit are the enabled ones of its quad. -/
lemma pixels_digitalHit (matrix : Matrix) {quadCol row : Nat} (hquad : quadCol < 100)
    (hrow : row < 192) :
    (digitalHit matrix quadCol row).pixels =
      ((List.range 4).filter fun slot => matrix.isOn (4 * quadCol + slot) row).map
        fun slot => (4 * quadCol + slot, row, 4) := by
  have hslots : (digitalHit matrix quadCol row).tots.toList.zipIdx =
      (List.range 4).map fun slot => (digitalAnswer matrix (4 * quadCol + slot) row % 16, slot) :=
    rfl
  have hanswer : ∀ slot, digitalAnswer matrix (4 * quadCol + slot) row % 16 =
      if matrix.isOn (4 * quadCol + slot) row then 4 else 0 := by
    intro slot
    unfold digitalAnswer
    split <;> rfl
  have hplace : (digitalHit matrix quadCol row).quadCol = quadCol := Hit.quadCol_at hquad _ _
  have hline : (digitalHit matrix quadCol row).row = row := Hit.row_at _ hrow _
  have hkept : ∀ slot ∈ List.range 4,
      decide (digitalAnswer matrix (4 * quadCol + slot) row % 16 ≠ 0) =
        matrix.isOn (4 * quadCol + slot) row := by
    intro slot _
    rw [hanswer]
    cases matrix.isOn (4 * quadCol + slot) row <;> rfl
  rw [Hit.pixels, hslots, List.filter_map, List.map_map]
  refine (congrArg (List.map _) (List.filter_congr hkept)).trans ?_
  refine List.map_congr_left fun slot hslot => ?_
  rw [Function.comp_apply, hanswer, if_pos (List.mem_filter.1 hslot).2, hline]
  show (4 * (digitalHit matrix quadCol row).quadCol + slot, row, (4 : UInt8)) = _
  rw [hplace]

end Scan

namespace Detector

variable {G : Type}

/-- The quads that a digital trigger reports: those in an enabled core column that have an enabled
pixel, by quad column and in each of them by row. -/
def digitalQuads (detector : Detector G) : List (Nat × Nat) :=
  Scan.raster.filter fun (quadCol, row) =>
    detector.registers.coreColIsOn (quadCol / 2) && Scan.quadIsOn detector.matrix quadCol row

/-- The hits that a digital trigger reports. -/
def digitalHits (detector : Detector G) : List Hit :=
  detector.digitalQuads.map fun (quadCol, row) => Scan.digitalHit detector.matrix quadCol row

lemma lt_of_mem_digitalQuads {detector : Detector G} {quadCol row : Nat}
    (h : (quadCol, row) ∈ detector.digitalQuads) : quadCol < 100 ∧ row < 192 :=
  Scan.mem_raster.1 (List.mem_filter.1 h).1

/-- There is one hit for each of the quads, in their order. -/
lemma places_digitalHits (detector : Detector G) :
    (detector.digitalHits.map fun hit => (hit.quadCol, hit.row)) = detector.digitalQuads := by
  have hplace : ∀ quad ∈ detector.digitalQuads,
      ((Scan.digitalHit detector.matrix quad.1 quad.2).quadCol,
        (Scan.digitalHit detector.matrix quad.1 quad.2).row) = quad := by
    intro quad hquad
    obtain ⟨hcol, hrow⟩ := lt_of_mem_digitalQuads hquad
    exact Hit.place_at hcol hrow _
  rw [digitalHits, List.map_map]
  exact (List.map_congr_left hplace).trans (List.map_id' _)

/-- The pixels of the hits are the enabled ones of their quads. -/
lemma pixels_digitalHits (detector : Detector G) :
    detector.digitalHits.flatMap Hit.pixels =
      detector.digitalQuads.flatMap fun quad =>
        ((List.range 4).filter fun slot => detector.matrix.isOn (4 * quad.1 + slot) quad.2).map
          fun slot => (4 * quad.1 + slot, quad.2, 4) := by
  unfold digitalHits
  rw [List.flatMap_map]
  refine List.flatMap_congr fun quad hquad => ?_
  obtain ⟨hcol, hrow⟩ := lt_of_mem_digitalQuads hquad
  exact Scan.pixels_digitalHit detector.matrix hcol hrow

lemma mem_pixels_digitalHits {detector : Detector G} {col row : Nat} {tot : UInt8} :
    (col, row, tot) ∈ detector.digitalHits.flatMap Hit.pixels ↔
      detector.registers.coreColIsOn (col / 8) = true ∧ detector.matrix.isOn col row = true ∧
        tot = 4 := by
  rw [pixels_digitalHits, List.mem_flatMap]
  constructor
  · rintro ⟨⟨quadCol, line⟩, hquad, hpixel⟩
    obtain ⟨slot, hslot, heq⟩ := List.mem_map.1 hpixel
    obtain ⟨hrange, hon⟩ := List.mem_filter.1 hslot
    obtain ⟨hcore, -⟩ := Bool.and_eq_true_iff.1 (List.mem_filter.1 hquad).2
    simp only [Prod.mk.injEq] at heq
    obtain ⟨rfl, rfl, rfl⟩ := heq
    have hlt := List.mem_range.1 hrange
    have hdiv : (4 * quadCol + slot) / 8 = quadCol / 2 := by omega
    rw [hdiv]
    exact ⟨hcore, hon, rfl⟩
  · rintro ⟨hcore, hon, rfl⟩
    obtain ⟨hcol, hrow⟩ := Matrix.lt_of_isOn hon
    have hslot : 4 * (col / 4) + col % 4 = col := Nat.div_add_mod col 4
    have hdiv : col / 4 / 2 = col / 8 := Nat.div_div_eq_div_mul col 4 2
    have hrange : col % 4 ∈ List.range 4 := List.mem_range.2 (Nat.mod_lt col (by decide))
    have hon' : detector.matrix.isOn (4 * (col / 4) + col % 4) row = true := by rwa [hslot]
    refine ⟨(col / 4, row), List.mem_filter.2 ⟨Scan.mem_raster.2 ⟨by omega, hrow⟩, ?_⟩, ?_⟩
    · refine Bool.and_eq_true_iff.2 ⟨?_, List.any_eq_true.2 ⟨col % 4, hrange, hon'⟩⟩
      rwa [hdiv]
    · refine List.mem_map.2 ⟨col % 4, List.mem_filter.2 ⟨hrange, hon'⟩, ?_⟩
      rw [hslot]

/-- No pixel is reported twice. -/
lemma nodup_pixels_digitalHits (detector : Detector G) :
    (detector.digitalHits.flatMap Hit.pixels).Nodup := by
  rw [pixels_digitalHits, List.nodup_flatMap]
  constructor
  · intro quad _
    refine List.Nodup.map ?_ (List.nodup_range.filter _)
    intro slot slot' h
    simpa using h
  · have hquads : detector.digitalQuads.Nodup := Scan.nodup_raster.filter _
    refine hquads.imp fun {quad quad'} hne pixel hpixel hpixel' => hne ?_
    obtain ⟨slot, hslot, rfl⟩ := List.mem_map.1 hpixel
    obtain ⟨slot', hslot', heq⟩ := List.mem_map.1 hpixel'
    have hlt := List.mem_range.1 (List.mem_filter.1 hslot).1
    have hlt' := List.mem_range.1 (List.mem_filter.1 hslot').1
    simp only [Prod.mk.injEq] at heq
    obtain ⟨hcol, hrow, -⟩ := heq
    refine Prod.ext ?_ hrow.symm
    omega

variable [Generator G]

/-- What a trigger reads is not changed by what it does first. -/
lemma ready_config (detector : Detector G) :
    detector.ready.registers = detector.registers ∧ detector.ready.matrix = detector.matrix := by
  have hrestart : detector.restartGenerator.registers = detector.registers ∧
      detector.restartGenerator.matrix = detector.matrix := by
    rw [restartGenerator_eq]
    exact ⟨rfl, rfl⟩
  unfold ready refreshThresholds
  split
  · exact hrestart
  · exact hrestart

/-- **The data frames of a digital trigger**: its header and the hits. -/
lemma trigger_digital {detector : Detector G}
    (hdigital : detector.registers.field .injModeDig = 1) (trigger : Trigger) :
    (detector.trigger trigger).1 =
      header trigger :: detector.digitalHits.map fun hit => .synced (.hit hit) := by
  obtain ⟨hregisters, hmatrix⟩ := detector.ready_config
  have hinjection : injection detector.registers = .digital := if_pos hdigital
  have hcols : enabledCoreCols detector.registers =
      (List.range 50).filter detector.registers.coreColIsOn := by
    refine List.filter_congr fun coreCol hcol => ?_
    exact coreColEnabled_eq _ (List.mem_range.1 hcol)
  have hscan : detector.ready.scan.1 = detector.digitalHits := by
    unfold scan
    rw [hregisters, hmatrix, hinjection, hcols]
    show (Scan.hits Scan.digitalResponse _ _ _).1 = _
    rw [Scan.hits_digital]
    rfl
  rw [trigger_eq, hscan]

/-- The data frames of a queue are those of a trigger in it between those before and after. -/
lemma dataFrames_around (detector : Detector G) (before after : List Command)
    (trigger : Trigger) :
    detector.dataFrames (before ++ .trigger trigger :: after) =
      detector.dataFrames before ++ ((detector.executeAll before).trigger trigger).1 ++
        ((detector.executeAll before).execute (.trigger trigger)).dataFrames after := by
  rw [dataFrames_append, List.append_assoc]
  congr 1
  rw [dataFrames, demandsAll, List.filterMap_append, ← dataFrames]
  congr 1
  exact Readout.filterMap_data?_send _ _

end Detector

/-! ## What is sent -/

namespace Chip

variable {G : Type} [Generator G] {chip : Chip G}

/-- **A digital trigger reports exactly the enabled pixels.**  Let it be anywhere in the queue, and
let injections be digital when its turn comes.  Of the data frames that the bytes of the call decode
to, those of the trigger are its header and one hit for each quad that lies in an enabled core
column and has an enabled pixel, by quad column and in each of them by row.  The pixels of these
hits are the enabled ones in the enabled core columns, each once and with the time 4. -/
theorem digital_trigger_reports_enabled_pixels (h : Reachable chip)
    (hmode : chip.readout.mode ≠ .serviceOnly) {before after : List Command} {trigger : Trigger}
    (hqueue : chip.queue = before ++ .trigger trigger :: after)
    (hdigital : (chip.detector.executeAll before).registers.field .injModeDig = 1) :
    let detector := chip.detector.executeAll before
    let hits := detector.digitalHits
    (Channel.ofBytes (α := Frame) chip.process.bytes).items.toList.filterMap Frame.data? =
        chip.detector.dataFrames before ++
          (.synced (.header ⟨0, trigger.tag, 0⟩) :: hits.map fun hit => .synced (.hit hit)) ++
          (detector.execute (.trigger trigger)).dataFrames after ∧
      (hits.map fun hit => (hit.quadCol, hit.row)) = detector.digitalQuads ∧
      (hits.flatMap Hit.pixels).Nodup ∧
      ∀ col row tot, (col, row, tot) ∈ hits.flatMap Hit.pixels ↔
        detector.registers.coreColIsOn (col / 8) = true ∧ detector.matrix.isOn col row = true ∧
          tot = 4 := by
  intro detector hits
  refine ⟨?_, detector.places_digitalHits, detector.nodup_pixels_digitalHits,
    fun _ _ _ => Detector.mem_pixels_digitalHits⟩
  have hsends : chip.readout.mode.sendsData = true := decide_eq_true hmode
  have hdecoded : (Channel.ofBytes (α := Frame) chip.process.bytes).items.toList =
      chip.process.frames := (bytes_decode (h.step .process trivial)).2.1
  rw [hdecoded, process_data, if_pos hsends, hqueue, Detector.dataFrames_around,
    Detector.trigger_digital hdigital]
  rfl

/-- A trigger behind a write of the pixels 0 and 1 of the first row, of which the second is enabled.
Only the first core column takes part. -/
theorem digital_trigger_after_write :
    let chip : Chip ChaCha := (powerOn 0 .dataOnly (ChaCha.ofSeed 7)).run
      [.changeRegisters fun registers =>
          { registers with values := ((Vector.replicate 138 0).set 32 1).set 39 16 },
        .push (.write ⟨0, 0, .single 0x0100⟩),
        .push (.trigger ⟨8, 3, by decide, by decide, by decide⟩)]
    let detector := chip.detector.executeAll [.write ⟨0, 0, .single 0x0100⟩]
    chip.readout.mode ≠ .serviceOnly ∧ detector.registers.field .injModeDig = 1 ∧
      (1, 0, 4) ∈ detector.digitalHits.flatMap Hit.pixels ∧
      (Channel.ofBytes (α := Frame) chip.process.bytes).items.toList.filterMap Frame.data? =
        .synced (.header ⟨0, 3, 0⟩) :: detector.digitalHits.map fun hit => .synced (.hit hit) := by
  intro chip detector
  have hreachable : Reachable chip := by
    refine (Reachable.powerOn 0 .dataOnly (ChaCha.ofSeed 7)).run ?_
    simp only [List.forall_mem_cons]
    exact ⟨trivial, .write 0 0 (.single 0x0100) rfl, .trigger 8 3 rfl, by simp⟩
  have hmode : chip.readout.mode ≠ .serviceOnly := by decide
  have hqueue : chip.queue = [.write ⟨0, 0, .single 0x0100⟩] ++
      .trigger ⟨8, 3, by decide, by decide, by decide⟩ :: [] := rfl
  have hdigital : detector.registers.field .injModeDig = 1 := by decide +kernel
  obtain ⟨hdata, -, -, hpixels⟩ :=
    digital_trigger_reports_enabled_pixels hreachable hmode hqueue hdigital
  refine ⟨hmode, hdigital, (hpixels 1 0 4).2 ⟨?_, ?_, rfl⟩, ?_⟩
  · decide +kernel
  · decide +kernel
  · exact hdata.trans (List.append_nil _)

end Chip
end PixelChip

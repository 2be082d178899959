import PixelChip.Proofs.Chip.Trigger
import PixelChip.Proofs.Checked.Access
import PixelChip.Proofs.Checked.Thresholds

/-!
# Triggers under checks

A trigger takes numbers of columns and rows through nested loops, and with them thresholds and
pixels out of arrays.  `trigger_eq` says that no check fails on the way, whatever the registers and
pixels hold and whatever thresholds were kept.
-/

namespace PixelChip
namespace Checked

/-! ## States handed through -/

section Through

variable {α β σ : Type}

/-- Applies a step to each element in turn and hands a state from one to the next. -/
def through (step : α → σ → Option (β × σ)) : List α → σ → Option (List β × σ)
  | [], state => return ([], state)
  | a :: rest, state => do
    let (b, state) ← step a state
    let (bs, state) ← through step rest state
    return (b :: bs, state)

/-- If no step fails, the whole does not. -/
lemma through_eq {checked : α → σ → Option (β × σ)} {step : α → σ → β × σ} {inputs : List α}
    (h : ∀ a ∈ inputs, ∀ state, checked a state = some (step a state)) (state : σ) :
    through checked inputs state = some (Scan.through step inputs state) := by
  induction inputs generalizing state with
  | nil => rfl
  | cons a inputs ih =>
      obtain ⟨ha, hrest⟩ := List.forall_mem_cons.1 h
      simp only [through, Scan.through, ha, ih hrest, Option.bind_eq_bind, Option.bind_some]
      rfl

end Through

variable {G : Type}

/-! ## Core columns and quads -/

/-- The field that holds the enable bit of a core column, and the core column of its first bit. -/
def enableField (coreCol : Nat) : Field × Nat :=
  if coreCol ≤ 15 then (.enCoreColSync, 0)
  else if coreCol ≤ 31 then (.enCoreColLin1, 16)
  else if coreCol ≤ 32 then (.enCoreColLin2, 32)
  else if coreCol ≤ 48 then (.enCoreColDiff1, 33)
  else (.enCoreColDiff2, 49)

/-- Whether a core column takes part in triggers.  A field has 16 bits, which is what it can be
shifted by. -/
def coreColEnabled (registers : RegisterFile) (coreCol : Nat) : Option Bool := do
  let (field, first) := enableField coreCol
  let place ← minus coreCol first
  let place ← below 16 place
  return (registers.field field).toNat.testBit place

/-- The quad columns of a core column. -/
def quadColumns (coreCol : Nat) : Option (List Nat) := do
  let first ← word (coreCol * 2)
  let last ← word (first + 2)
  return List.range' first (last - first)

/-- The quad columns of those of some core columns that take part in triggers. -/
def enabledQuadColumns (registers : RegisterFile) : (coreCols : List Nat) → Option (List Nat)
  | [] => return []
  | coreCol :: rest => do
    let enabled ← coreColEnabled registers coreCol
    let quadCols ← if enabled then quadColumns coreCol else pure []
    let others ← enabledQuadColumns registers rest
    return quadCols ++ others

/-- A core column is not left of the first one of its field, and at most 15 right of it. -/
lemma enableField_spec {coreCol : Nat} (h : coreCol < 50) :
    (enableField coreCol).2 ≤ coreCol ∧ coreCol - (enableField coreCol).2 < 16 ∧
      Detector.enableBit coreCol =
        ((enableField coreCol).1, coreCol - (enableField coreCol).2) := by
  unfold enableField Detector.enableBit
  split_ifs <;> exact ⟨by omega, by omega, rfl⟩

lemma coreColEnabled_eq (registers : RegisterFile) {coreCol : Nat} (h : coreCol < 50) :
    coreColEnabled registers coreCol = some (Detector.coreColEnabled registers coreCol) := by
  obtain ⟨hfirst, hplace, hbit⟩ := enableField_spec h
  rw [coreColEnabled, Detector.coreColEnabled, hbit]
  simp only [minus_eq hfirst, below_eq hplace, Option.bind_eq_bind,
    Option.bind_some]
  rfl

lemma quadColumns_eq {coreCol : Nat} (h : coreCol < 50) :
    quadColumns coreCol = some [2 * coreCol, 2 * coreCol + 1] := by
  rw [quadColumns, word_eq (by omega), Nat.mul_comm]
  simp only [Option.bind_eq_bind, Option.bind_some]
  rw [word_eq (by omega), Option.bind_some, Nat.add_sub_cancel_left]
  rfl

lemma enabledQuadColumns_eq (registers : RegisterFile) {coreCols : List Nat}
    (h : ∀ coreCol ∈ coreCols, coreCol < 50) :
    enabledQuadColumns registers coreCols =
      some (Scan.quadColumns (coreCols.filter (Detector.coreColEnabled registers))) := by
  induction coreCols with
  | nil => rfl
  | cons coreCol coreCols ih =>
      obtain ⟨hcoreCol, hrest⟩ := List.forall_mem_cons.1 h
      rw [enabledQuadColumns, coreColEnabled_eq registers hcoreCol, quadColumns_eq hcoreCol,
        ih hrest, List.filter_cons]
      cases Detector.coreColEnabled registers coreCol <;> rfl

/-! ## Pixels that answer -/

/-- The time over threshold of an enabled pixel. -/
abbrev Response (G : Type) := (col row : Nat) → Pixel → G → Option (UInt8 × G)

/-- The answer of a pixel of a quad. -/
def pixel (respond : Response G) (matrix : Matrix) (quadCol row place : Nat) (generator : G) :
    Option (UInt8 × G) := do
  let first ← word (quadCol * 4)
  let col ← word (first + place)
  match ← pixel? matrix col row with
  | none => return (0, generator)
  | some pixel => if pixel.enabled then respond col row pixel generator else return (0, generator)

/-- The answers of the four pixels of a quad. -/
def quad (respond : Response G) (matrix : Matrix) (quadCol row : Nat) (generator : G) :
    Option (Quad UInt8 × G) := do
  let (p0, generator) ← pixel respond matrix quadCol row 0 generator
  let (p1, generator) ← pixel respond matrix quadCol row 1 generator
  let (p2, generator) ← pixel respond matrix quadCol row 2 generator
  let (p3, generator) ← pixel respond matrix quadCol row 3 generator
  return (⟨p0, p1, p2, p3⟩, generator)

/-- The hit of a quad, if any of its pixels answers. -/
def hit? (respond : Response G) (matrix : Matrix) (quadCol row : Nat) (generator : G) :
    Option (Option Hit × G) := do
  let (tots, generator) ← quad respond matrix quadCol row generator
  return (if tots.toList.all (· = 0) then none
      else some (Hit.at (.ofNat quadCol) (.ofNat row) tots),
    generator)

/-- The hits of a quad column. -/
def column (respond : Response G) (matrix : Matrix) (quadCol : Nat) (generator : G) :
    Option (List Hit × G) := do
  let (hits, generator) ← through (hit? respond matrix quadCol) (List.range 192) generator
  return (hits.filterMap id, generator)

/-- The hits of some quad columns. -/
def hits (respond : Response G) (matrix : Matrix) (quadCols : List Nat) (generator : G) :
    Option (List Hit × G) := do
  let (columns, generator) ← through (column respond matrix) quadCols generator
  return (columns.flatten, generator)

section Responses

variable {checked : Response G} {respond : Scan.Response G} {quadCol row : Nat}

/-- What a response does inside of the matrix, without checks that fail. -/
def Agrees (checked : Response G) (respond : Scan.Response G) : Prop :=
  ∀ col < 400, ∀ row < 192, ∀ pixel generator,
    checked col row pixel generator = some (respond col row pixel generator)

lemma pixel_eq (h : Agrees checked respond) (matrix : Matrix) (hquad : quadCol < 100) (row : Nat)
    {place : Nat} (hplace : place < 4) (generator : G) :
    pixel checked matrix quadCol row place generator =
      some (Scan.pixel respond matrix (4 * quadCol + place) row generator) := by
  rw [pixel, word_eq (by omega), Nat.mul_comm, Scan.pixel]
  simp only [Option.bind_eq_bind, Option.bind_some]
  rw [word_eq (by omega), Option.bind_some, pixel?_eq, Option.bind_some]
  by_cases hinside : 4 * quadCol + place < 400 ∧ row < 192
  · cases matrix.pixel? (4 * quadCol + place) row with
    | none => rfl
    | some pixel =>
        dsimp only
        split
        · exact h _ hinside.1 _ hinside.2 pixel generator
        · rfl
  · rw [Matrix.pixel?_of_outside matrix hinside]
    rfl

lemma quad_eq (h : Agrees checked respond) (matrix : Matrix) (hquad : quadCol < 100) (row : Nat)
    (generator : G) :
    quad checked matrix quadCol row generator =
      some (Scan.quad respond matrix quadCol row generator) := by
  simp only [quad, pixel_eq h matrix hquad row (show 0 < 4 by decide),
    pixel_eq h matrix hquad row (show 1 < 4 by decide),
    pixel_eq h matrix hquad row (show 2 < 4 by decide),
    pixel_eq h matrix hquad row (show 3 < 4 by decide), Option.bind_eq_bind, Option.bind_some]
  rfl

lemma column_eq (h : Agrees checked respond) (matrix : Matrix) (hquad : quadCol < 100)
    (generator : G) :
    column checked matrix quadCol generator =
      some (Scan.column respond matrix quadCol generator) := by
  have hhit : ∀ row ∈ List.range 192, ∀ generator, hit? checked matrix quadCol row generator =
      some (Scan.hit? respond matrix quadCol row generator) := fun row _ generator => by
    rw [hit?, quad_eq h matrix hquad]
    rfl
  simp only [column, through_eq hhit, Scan.column, Option.bind_eq_bind, Option.bind_some,
    Option.pure_def]

theorem hits_eq (h : Agrees checked respond) (matrix : Matrix) {coreCols : List Nat}
    (hcols : ∀ coreCol ∈ coreCols, coreCol < 50) (generator : G) :
    hits checked matrix (Scan.quadColumns coreCols) generator =
      some (Scan.hits respond matrix coreCols generator) := by
  have hcolumn : ∀ quadCol ∈ Scan.quadColumns coreCols, ∀ generator,
      column checked matrix quadCol generator =
        some (Scan.column respond matrix quadCol generator) := fun quadCol hquad =>
    column_eq h matrix (Scan.lt_of_mem_quadColumns hcols hquad)
  simp only [hits, through_eq hcolumn, Scan.hits, Option.bind_eq_bind, Option.bind_some,
    Option.pure_def]

end Responses

/-! ## Triggers -/

variable [Generator G] {detector : Detector G}

/-- The threshold of the pixel at a column and row. -/
def charge (thresholds : Thresholds) (col row : Nat) : Option Float :=
  thresholds.charges[col * 192 + row]?

/-- The time over threshold of a pixel for an analog charge. -/
def analogTot (detector : Detector G) (injected : Float) : Response G :=
  fun col row pixel generator =>
    if injected ≤ 0.0 then return (0, generator)
    else do
      let (noise, generator) :=
        if detector.pixelNoise then
          let (z, generator) := Generator.normal generator
          (Calibration.pixelNoise * z, generator)
        else (0.0, generator)
      let trim := Float.ofNat pixel.tdac.toNat * 10.0 - 80.0
      let base ← detector.thresholds.elim (some 0.0) (charge · col row)
      let threshold := base + noise + trim
      if injected ≤ threshold then return (0, generator)
      else
        let frontEnd := FrontEnd.ofCol col
        let dac := Float.ofNat (detector.registers.field (Detector.feedbackField frontEnd)).toNat
        let tot := Calibration.totOfCharge dac (injected - threshold).floor frontEnd
        return (Detector.clampTot tot, generator)

/-- How the pixels answer to a stimulus. -/
def respond (detector : Detector G) : Injection → Response G
  | .digital => fun _ _ _ generator => return (4, generator)
  | .analog injected => analogTot detector injected

/-- Brings the thresholds in step with the threshold DACs. -/
def refreshThresholds (detector : Detector G) : Option (Detector G) :=
  if detector.thresholdsHold then return detector
  else do
    let (thresholds, generator) ←
      thresholds (.ofRegisters detector.registers) detector.randomThresholds detector.generator
    return { detector with thresholds := some thresholds, generator }

/-- The data frames of a trigger: its header and the hits. -/
def trigger (detector : Detector G) (trigger : Trigger) :
    Option (List DataFrame × Detector G) := do
  let detector ← refreshThresholds detector.restartGenerator
  let quadCols ← enabledQuadColumns detector.registers (List.range 50)
  let (hits, generator) ←
    hits (respond detector (Detector.injection detector.registers)) detector.matrix quadCols
      detector.generator
  return (Detector.header trigger :: hits.map fun hit => .synced (.hit hit),
    { detector with generator })

lemma charge_eq (thresholds : Thresholds) {col row : Nat} (hcol : col < 400) (hrow : row < 192) :
    charge thresholds col row = some (thresholds.charge col row) := by
  have hplace := Matrix.index_lt hcol hrow
  rw [charge, Thresholds.charge, Nat.mul_comm, ← Matrix.index, Vector.getElem?_eq_getElem hplace]
  rfl

lemma agrees_analogTot (detector : Detector G) (injected : Float) :
    Agrees (analogTot detector injected) (detector.analogTot injected) := by
  intro col hcol row hrow pixel generator
  have hbase : detector.thresholds.elim (some 0.0) (charge · col row) =
      some (detector.baseThreshold col row) := by
    unfold Detector.baseThreshold
    cases detector.thresholds with
    | none => rfl
    | some thresholds => exact charge_eq thresholds hcol hrow
  simp only [analogTot, Detector.analogTot, hbase, Option.bind_eq_bind, Option.bind_some,
    Option.pure_def]
  split_ifs <;> rfl

lemma agrees_respond (detector : Detector G) (injection : Injection) :
    Agrees (respond detector injection) (detector.respond injection) := by
  cases injection with
  | digital => exact fun _ _ _ _ _ _ => rfl
  | analog injected => exact agrees_analogTot detector injected

lemma refreshThresholds_eq (detector : Detector G) :
    refreshThresholds detector = some detector.refreshThresholds := by
  rw [refreshThresholds, Detector.refreshThresholds]
  split
  · rfl
  · rw [thresholds_eq]
    rfl

theorem trigger_eq (detector : Detector G) (trigger : Trigger) :
    Checked.trigger detector trigger = some (detector.trigger trigger) := by
  have hquads : ∀ registers, enabledQuadColumns registers (List.range 50) =
      some (Scan.quadColumns (Detector.enabledCoreCols registers)) := fun registers =>
    enabledQuadColumns_eq registers fun _ => List.mem_range.1
  simp only [Checked.trigger, Detector.trigger, refreshThresholds_eq, hquads, Option.bind_eq_bind,
    Option.bind_some]
  rw [hits_eq (agrees_respond _ _) _ fun _ => Detector.lt_of_mem_enabledCoreCols]
  rfl

end Checked
end PixelChip

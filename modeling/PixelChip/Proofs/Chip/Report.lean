import PixelChip.Proofs.Chip.Digital

/-!
# What a trigger may report

Digital or analog, with noise or without, a trigger asks only enabled pixels in enabled core columns
and passes the quads of the matrix once, in raster order.  What it reports can be said without
knowing how a pixel answers: `Scan.Faithful` lists it, and `Detector.triggerBy` is a trigger to which
the pixels answer in any way at all, of which the chip's own is one (`trigger_eq_triggerBy`).

Order and places are those of the raster because the places of the hits are a sublist of it
(`Scan.places_hits_sublist`): a quad is either left out or reported where it is read.
-/

namespace PixelChip

/-! ## The pixels of a hit -/

/-- A pixel of a hit lies in the quad of the hit and answered with a nonzero time. -/
lemma Hit.exists_of_mem_pixels_at {quadCol row : Nat} (hquad : quadCol < 100) (hrow : row < 192)
    {tots : Quad UInt8} {col line : Nat} {tot : UInt8}
    (h : (col, line, tot) ∈ (Hit.at (.ofNat quadCol) (.ofNat row) tots).pixels) :
    line = row ∧ ∃ slot answer, col = 4 * quadCol + slot ∧
      tots.toList[slot]? = some answer ∧ answer ≠ 0 := by
  obtain ⟨⟨reported, slot⟩, hmem, heq⟩ := List.mem_map.1 h
  obtain ⟨hslot, hne⟩ := List.mem_filter.1 hmem
  have htots : (Hit.at (.ofNat quadCol) (.ofNat row) tots).tots.toList =
      tots.toList.map (· % 16) := rfl
  rw [List.mk_mem_zipIdx_iff_getElem?, htots, List.getElem?_map] at hslot
  obtain ⟨answer, hanswer, rfl⟩ := Option.map_eq_some_iff.1 hslot
  simp only [Prod.mk.injEq, Hit.col, Hit.quadCol_at hquad, Hit.row_at _ hrow] at heq
  refine ⟨heq.2.1.symm, slot, answer, heq.1.symm, hanswer, ?_⟩
  rintro rfl
  exact of_decide_eq_true hne rfl

/-! ## Order -/

/-- Nested loops over ascending lists go through pairs in lexicographic order. -/
lemma pairwise_product {α β : Type} {r : α → α → Prop} {s : β → β → Prop} {outer : List α}
    {inner : List β} (houter : outer.Pairwise r) (hinner : inner.Pairwise s) :
    (outer ×ˢ inner).Pairwise (Prod.Lex r s) := by
  show (outer.flatMap fun a => inner.map (Prod.mk a)).Pairwise _
  rw [List.pairwise_flatMap]
  constructor
  · intro a _
    rw [List.pairwise_map]
    exact hinner.imp fun h => .right a h
  · refine houter.imp fun {a a'} h pair hpair pair' hpair' => ?_
    obtain ⟨b, -, rfl⟩ := List.mem_map.1 hpair
    obtain ⟨b', -, rfl⟩ := List.mem_map.1 hpair'
    exact .left b b' h

namespace Scan

variable {G : Type} {respond : Response G} {matrix : Matrix}

/-- What each step shows is at most what its input allows, so that the whole shows at most what the
inputs allow in their order. -/
lemma flatMap_through_sublist {α β γ σ : Type} {step : α → σ → β × σ} {shown : β → List γ}
    {allowed : α → List γ} {inputs : List α}
    (h : ∀ a ∈ inputs, ∀ state, (shown (step a state).1).Sublist (allowed a)) (state : σ) :
    ((through step inputs state).1.flatMap shown).Sublist (inputs.flatMap allowed) := by
  induction inputs generalizing state with
  | nil => exact List.Sublist.refl []
  | cons a inputs ih =>
      have hfirst := h a List.mem_cons_self state
      have hrest := ih (fun other hother => h other (List.mem_cons_of_mem a hother))
        (step a state).2
      exact hfirst.append hrest

/-- A quad column reports some of its quads, by row. -/
lemma places_column_sublist {quadCol : Nat} (hquad : quadCol < 100) (generator : G) :
    ((column respond matrix quadCol generator).1.map Hit.place).Sublist
      ((List.range 192).map (Prod.mk quadCol)) := by
  rw [column_fst, List.map_filterMap, List.filterMap_eq_flatMap_toList, List.map_eq_flatMap]
  refine flatMap_through_sublist ?_ generator
  intro row hrow state
  simp only [hit?, id]
  split
  · exact List.nil_sublist _
  · rw [Option.map_some, Hit.place_at hquad (List.mem_range.1 hrow)]
    exact List.Sublist.refl _

/-- A scan reports some quads of its columns, in the order in which it reads them. -/
lemma places_hits_sublist {coreCols : List Nat} (hcols : ∀ coreCol ∈ coreCols, coreCol < 50)
    (generator : G) :
    ((hits respond matrix coreCols generator).1.map Hit.place).Sublist
      (quadColumns coreCols ×ˢ List.range 192) := by
  rw [hits_fst, List.map_flatten, ← List.flatMap_def]
  refine flatMap_through_sublist ?_ generator
  intro quadCol hquad state
  exact places_column_sublist (lt_of_mem_quadColumns hcols hquad) state

/-! ## Which pixels answer -/

/-- Only enabled pixels answer. -/
lemma isOn_of_pixel_ne_zero {col row : Nat} {generator : G}
    (h : (pixel respond matrix col row generator).1 ≠ 0) : matrix.isOn col row = true := by
  unfold pixel at h
  unfold Matrix.isOn
  cases hpixel : matrix.pixel? col row with
  | none =>
      rw [hpixel] at h
      exact absurd rfl h
  | some found =>
      cases henabled : found.enabled with
      | true => exact henabled
      | false =>
          simp only [hpixel, henabled] at h
          exact absurd rfl h

/-- The slots of a quad are its pixels by ascending column. -/
lemma isOn_of_quad {quadCol row slot : Nat} {generator : G} {answer : UInt8}
    (hslot : (quad respond matrix quadCol row generator).1.toList[slot]? = some answer)
    (h : answer ≠ 0) : slot < 4 ∧ matrix.isOn (4 * quadCol + slot) row = true := by
  rcases slot with _ | _ | _ | _ | slot
  case succ.succ.succ.succ => exact absurd hslot (by simp [Quad.toList])
  all_goals
    obtain rfl := Option.some.inj hslot
    exact ⟨by decide, isOn_of_pixel_ne_zero h⟩

lemma div_two_mem_of_mem_quadColumns {coreCols : List Nat} {quadCol : Nat}
    (h : quadCol ∈ quadColumns coreCols) : quadCol / 2 ∈ coreCols := by
  obtain ⟨coreCol, hcol, hquad⟩ := List.mem_flatMap.1 h
  simp only [List.mem_cons, List.not_mem_nil, or_false] at hquad
  have hdiv : quadCol / 2 = coreCol := by omega
  rwa [hdiv]

/-- What the hits of a trigger say, given the registers and the matrix: no quad twice and all of them
in order, inside of the matrix, with times that the wire has room for, and with no time but of an
enabled pixel in an enabled core column. -/
structure Faithful (registers : RegisterFile) (matrix : Matrix) (hits : List Hit) : Prop where
  ascending : (hits.map Hit.place).Pairwise (Prod.Lex (· < ·) (· < ·))
  inside : ∀ hit ∈ hits, hit.quadCol < 100 ∧ hit.row < 192
  tot_le : ∀ hit ∈ hits, ∀ tot ∈ hit.tots.toList, tot ≤ 15
  enabled : ∀ hit ∈ hits, ∀ col row tot, (col, row, tot) ∈ hit.pixels →
    matrix.isOn col row = true ∧ registers.coreColIsOn (col / 8) = true

/-- **A scan is faithful**, whatever the pixels answer. -/
theorem faithful_hits (respond : Response G) (registers : RegisterFile) (matrix : Matrix)
    (generator : G) :
    Faithful registers matrix
      (hits respond matrix (Detector.enabledCoreCols registers) generator).1 := by
  have hcols : ∀ coreCol ∈ Detector.enabledCoreCols registers, coreCol < 50 := fun _ =>
    Detector.lt_of_mem_enabledCoreCols
  refine ⟨?_, ?_, ?_, ?_⟩
  · have hquads : (quadColumns (Detector.enabledCoreCols registers)).Pairwise (· < ·) := by
      rw [Detector.enabledCoreCols, quadColumns_filter_range]
      exact List.pairwise_lt_range.filter _
    exact (pairwise_product hquads List.pairwise_lt_range).sublist
      (places_hits_sublist hcols generator)
  · intro hit hhit
    obtain ⟨quadCol, hquad, row, hrow, state, rfl⟩ := exists_of_mem_hits hhit
    have hlt := lt_of_mem_quadColumns hcols hquad
    rw [Hit.quadCol_at hlt, Hit.row_at _ hrow]
    exact ⟨hlt, hrow⟩
  · intro hit hhit tot htot
    obtain ⟨quadCol, -, row, -, state, rfl⟩ := exists_of_mem_hits hhit
    have hwidth := (Hit.at_inWidth (.ofNat quadCol) (.ofNat row) _).2.2.2 tot htot
    exact UInt8.le_iff_toNat_le.2 (Nat.le_of_lt_succ hwidth)
  · intro hit hhit col line tot hpixel
    obtain ⟨quadCol, hquad, row, hrow, state, rfl⟩ := exists_of_mem_hits hhit
    have hlt := lt_of_mem_quadColumns hcols hquad
    obtain ⟨rfl, slot, answer, rfl, hslot, hne⟩ := Hit.exists_of_mem_pixels_at hlt hrow hpixel
    obtain ⟨hfour, hon⟩ := isOn_of_quad hslot hne
    obtain ⟨hrange, hcore⟩ := List.mem_filter.1 (div_two_mem_of_mem_quadColumns hquad)
    have hdiv : (4 * quadCol + slot) / 8 = quadCol / 2 := by omega
    rw [hdiv, ← Detector.coreColEnabled_eq registers (List.mem_range.1 hrange)]
    exact ⟨hon, hcore⟩

end Scan

/-! ## Triggers with any answer -/

namespace Detector

variable {G : Type} [Generator G]

/-- The data frames of a trigger to which enabled pixels answer as `answer` says, given the detector
and the stimulus. -/
def triggerBy (answer : Detector G → Injection → Scan.Response G) (detector : Detector G)
    (trigger : Trigger) : List DataFrame × Detector G :=
  let detector := detector.ready
  let (hits, generator) :=
    Scan.hits (answer detector (injection detector.registers)) detector.matrix
      (enabledCoreCols detector.registers) detector.generator
  (header trigger :: hits.map fun hit => .synced (.hit hit), { detector with generator })

/-- The pixels of the detector answer to a digital or to an analog stimulus. -/
lemma trigger_eq_triggerBy (detector : Detector G) (trigger : Trigger) :
    detector.trigger trigger = detector.triggerBy respond trigger := rfl

/-- Such a trigger sends its header and faithful hits. -/
lemma exists_hits_triggerBy (answer : Detector G → Injection → Scan.Response G)
    (detector : Detector G) (trigger : Trigger) :
    ∃ hits, (detector.triggerBy answer trigger).1 =
        header trigger :: hits.map (fun hit => .synced (.hit hit)) ∧
      Scan.Faithful detector.registers detector.matrix hits := by
  obtain ⟨hregisters, hmatrix⟩ := detector.ready_config
  refine ⟨_, rfl, ?_⟩
  rw [hregisters, hmatrix]
  exact Scan.faithful_hits _ detector.registers detector.matrix _

lemma triggerBy_config (answer : Detector G → Injection → Scan.Response G)
    (detector : Detector G) (trigger : Trigger) :
    (detector.triggerBy answer trigger).2.registers = detector.registers ∧
      (detector.triggerBy answer trigger).2.matrix = detector.matrix :=
  detector.ready_config

end Detector

namespace Chip

variable {G : Type} [Generator G]

/-- Executes a trigger to which enabled pixels answer as `answer` says. -/
def executeTriggerBy (answer : Detector G → Injection → Scan.Response G) (detector : Detector G)
    (readout : Readout) (trigger : Trigger) : Detector G × Readout :=
  let (frames, detector) := detector.triggerBy answer trigger
  (detector, frames.foldl (Readout.emit detector.read) readout)

/-- Service frames are sent between the data frames of a trigger, and do not change them. -/
lemma executeTriggerBy_data (answer : Detector G → Injection → Scan.Response G)
    (detector : Detector G) {readout : Readout} (hmode : readout.mode ≠ .serviceOnly)
    (trigger : Trigger) :
    (executeTriggerBy answer detector readout trigger).2.output.items.toList.filterMap
        Frame.data? =
      readout.output.items.toList.filterMap Frame.data? ++
        (detector.triggerBy answer trigger).1 := by
  rcases htrigger : detector.triggerBy answer trigger with ⟨frames, after⟩
  have hsends : readout.mode.sendsData = true := decide_eq_true hmode
  have hdemands : frames.foldl (Readout.emit after.read) readout =
      readout.meetAll (frames.map (.send after.read)) := by
    rw [Readout.meetAll, List.foldl_map]
    rfl
  simp only [executeTriggerBy, htrigger]
  rw [hdemands, Readout.meetAll_data, if_pos hsends, Readout.filterMap_data?_send]

/-- **A trigger reports no pixel that it should not.**  In any detector and whatever its pixels
answer, the data frames that a trigger adds to the output, past the service frames between them, are
a header with the tag of the trigger and faithful hits.  The registers, with their values and their
marks, and the pixels stay as they are. -/
theorem trigger_reports_no_other_pixel (answer : Detector G → Injection → Scan.Response G)
    (detector : Detector G) {readout : Readout} (hmode : readout.mode ≠ .serviceOnly)
    (trigger : Trigger) :
    execute detector readout (.trigger trigger) =
        executeTriggerBy Detector.respond detector readout trigger ∧
      (∃ hits : List Hit,
        (executeTriggerBy answer detector readout trigger).2.output.items.toList.filterMap
            Frame.data? =
          readout.output.items.toList.filterMap Frame.data? ++
            (.synced (.header ⟨0, trigger.tag, 0⟩) :: hits.map fun hit => .synced (.hit hit)) ∧
        Scan.Faithful detector.registers detector.matrix hits) ∧
      (executeTriggerBy answer detector readout trigger).1.registers = detector.registers ∧
      (executeTriggerBy answer detector readout trigger).1.matrix = detector.matrix := by
  obtain ⟨hits, hframes, hfaithful⟩ := detector.exists_hits_triggerBy answer trigger
  refine ⟨rfl, ⟨hits, ?_, hfaithful⟩, detector.triggerBy_config answer trigger⟩
  rw [executeTriggerBy_data answer detector hmode, hframes]
  rfl

/-- At power-on injections are digital.  A trigger behind a write that enables the second pixel of the
first row reports it. -/
theorem trigger_reports_written_pixel :
    let detector := (Detector.powerOn (ChaCha.ofSeed 7)).write ⟨0, 0, .single 0x0100⟩
    let readout := Readout.powerOn .dataOnly
    let trigger := Trigger.ofPattern 7 3
    readout.mode ≠ .serviceOnly ∧
      ∃ hits, (execute detector readout (.trigger trigger)).2.output.items.toList.filterMap
          Frame.data? =
            .synced (.header ⟨0, 3, 0⟩) :: hits.map (fun hit => .synced (.hit hit)) ∧
        Scan.Faithful detector.registers detector.matrix hits ∧
        (1, 0, 4) ∈ hits.flatMap Hit.pixels := by
  intro detector readout trigger
  have hmode : readout.mode ≠ .serviceOnly := by decide
  have hdigital : detector.registers.field .injModeDig = 1 := by decide +kernel
  obtain ⟨hsame, ⟨hits, hdata, hfaithful⟩, -⟩ :=
    trigger_reports_no_other_pixel Detector.respond detector hmode trigger
  rw [← hsame] at hdata
  refine ⟨hmode, hits, hdata, hfaithful, ?_⟩
  have hframes := executeTriggerBy_data Detector.respond detector hmode trigger
  rw [← hsame, hdata, ← Detector.trigger_eq_triggerBy, Detector.trigger_digital hdigital]
    at hframes
  have hinjective : Function.Injective fun hit : Hit => DataFrame.synced (.hit hit) := by
    intro hit hit' h
    exact SubFrame.hit.inj (congrArg DataFrame.second h)
  have hhits : hits = detector.digitalHits :=
    List.map_injective_iff.2 hinjective (List.cons.inj (List.append_cancel_left hframes)).2
  rw [hhits, Detector.mem_pixels_digitalHits]
  refine ⟨?_, ?_, rfl⟩
  · decide +kernel
  · decide +kernel

end Chip
end PixelChip

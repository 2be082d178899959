import PixelChip.Chip.Detector
import PixelChip.Proofs.Frame.RoundTrip

/-!
# The frames of a trigger

Whatever the pixels answer, a trigger gives data frames with the sync filler in the first place,
and its hits lie inside the matrix.  Core rows end at 23 there, so that no hit has the bits of an
event header, and every frame of a trigger shows its kind on the wire.
-/

namespace PixelChip

/-! ## Hits inside the matrix -/

namespace Scan

variable {G : Type}

/-- What comes out of a state handed through is the outcome of one of the steps. -/
lemma exists_of_mem_through {α β σ : Type} {step : α → σ → β × σ} {inputs : List α} {state : σ}
    {b : β} (h : b ∈ (through step inputs state).1) :
    ∃ a ∈ inputs, ∃ state', b = (step a state').1 := by
  induction inputs generalizing state with
  | nil => exact absurd h List.not_mem_nil
  | cons a inputs ih =>
      obtain rfl | h := List.mem_cons.1 h
      · exact ⟨a, List.mem_cons_self, state, rfl⟩
      · obtain ⟨a', ha', state', rfl⟩ := ih h
        exact ⟨a', List.mem_cons_of_mem a ha', state', rfl⟩

lemma column_fst (respond : Response G) (matrix : Matrix) (quadCol : Nat) (generator : G) :
    (column respond matrix quadCol generator).1 =
      (through (hit? respond matrix quadCol) (List.range 192) generator).1.filterMap id := by
  rw [column]

lemma hits_fst (respond : Response G) (matrix : Matrix) (coreCols : List Nat) (generator : G) :
    (hits respond matrix coreCols generator).1 =
      (through (column respond matrix) (quadColumns coreCols) generator).1.flatten := by
  rw [hits]

lemma exists_of_mem_column {respond : Response G} {matrix : Matrix} {quadCol : Nat}
    {generator : G} {hit : Hit} (h : hit ∈ (column respond matrix quadCol generator).1) :
    ∃ row < 192, ∃ state,
      hit = Hit.at (.ofNat quadCol) (.ofNat row) (quad respond matrix quadCol row state).1 := by
  rw [column_fst] at h
  obtain ⟨found, hfound, hsome⟩ := List.mem_filterMap.1 h
  obtain ⟨row, hrow, state, rfl⟩ := exists_of_mem_through hfound
  refine ⟨row, List.mem_range.1 hrow, state, ?_⟩
  simp only [hit?, id] at hsome
  split at hsome
  · exact absurd hsome (by simp)
  · exact (Option.some.inj hsome).symm

lemma lt_of_mem_quadColumns {coreCols : List Nat} {quadCol : Nat}
    (hcols : ∀ coreCol ∈ coreCols, coreCol < 50) (h : quadCol ∈ quadColumns coreCols) :
    quadCol < 100 := by
  obtain ⟨coreCol, hcol, hquad⟩ := List.mem_flatMap.1 h
  have hlt := hcols coreCol hcol
  simp only [List.mem_cons, List.not_mem_nil, or_false] at hquad
  omega

/-- Every hit is what a quad of the scanned columns answers. -/
lemma exists_of_mem_hits {respond : Response G} {matrix : Matrix} {coreCols : List Nat}
    {generator : G} {hit : Hit} (h : hit ∈ (hits respond matrix coreCols generator).1) :
    ∃ quadCol ∈ quadColumns coreCols, ∃ row < 192, ∃ state,
      hit = Hit.at (.ofNat quadCol) (.ofNat row) (quad respond matrix quadCol row state).1 := by
  rw [hits_fst] at h
  obtain ⟨hits, hhits, hmem⟩ := List.mem_flatten.1 h
  obtain ⟨quadCol, hquad, state, heq⟩ := exists_of_mem_through hhits
  rw [heq] at hmem
  exact ⟨quadCol, hquad, exists_of_mem_column hmem⟩

end Scan

/-! ## Frames on the wire -/

/-- The wire has room for every field of a hit, wherever it lies. -/
lemma Hit.at_inWidth (quadCol row : UInt16) (tots : Quad UInt8) :
    (SubFrame.hit (Hit.at quadCol row tots)).InWidth := by
  refine ⟨?_, ?_, ?_, ?_⟩
  · simp only [Hit.at, UInt8.toNat_ofNat']
    omega
  · simp only [Hit.at, UInt8.toNat_ofNat']
    omega
  · simp only [Hit.at, UInt8.toNat_ofNat']
    omega
  · intro tot htot
    simp only [Hit.at, Quad.map, Quad.toList, List.mem_cons, List.not_mem_nil, or_false] at htot
    have hmod : ∀ t : UInt8, (t % 16).toNat < 16 := fun t => by
      rw [UInt8.toNat_mod]
      exact Nat.mod_lt _ (by decide)
    obtain rfl | rfl | rfl | rfl := htot
    · exact hmod _
    · exact hmod _
    · exact hmod _
    · exact hmod _

/-- A hit inside the matrix does not look like an event header. -/
lemma Hit.at_not_headerLike {quadCol row : UInt16} {tots : Quad UInt8} (hrow : row.toNat < 192) :
    ¬ (SubFrame.hit (Hit.at quadCol row tots)).HeaderLike := by
  rintro ⟨-, hcoreRow⟩
  simp only [Hit.at, UInt8.toNat_ofNat'] at hcoreRow
  omega

namespace Detector

variable {G : Type} [Generator G]

omit [Generator G] in
lemma lt_of_mem_enabledCoreCols {registers : RegisterFile} {coreCol : Nat}
    (h : coreCol ∈ enabledCoreCols registers) : coreCol < 50 :=
  List.mem_range.1 (List.mem_filter.1 h).1

/-- A frame of a trigger is its header or a hit inside the matrix, behind the sync filler. -/
lemma eq_synced_of_mem_trigger {detector : Detector G} {trigger : Trigger} {frame : DataFrame}
    (h : frame ∈ (detector.trigger trigger).1) :
    frame = header trigger ∨ ∃ quadCol < 100, ∃ row < 192, ∃ tots,
      frame = .synced (.hit (Hit.at (.ofNat quadCol) (.ofNat row) tots)) := by
  obtain rfl | hhit := List.mem_cons.1 h
  · exact .inl rfl
  · obtain ⟨hit, hmem, rfl⟩ := List.mem_map.1 hhit
    obtain ⟨quadCol, hquad, row, hrow, state, rfl⟩ := Scan.exists_of_mem_hits hmem
    have hlt : quadCol < 100 :=
      Scan.lt_of_mem_quadColumns (fun _ => lt_of_mem_enabledCoreCols) hquad
    exact .inr ⟨quadCol, hlt, row, hrow, _, rfl⟩

/-- **The frames of a trigger fit the wire and show their kind.** -/
theorem trigger_unambiguous {detector : Detector G} {trigger : Trigger} {frame : DataFrame}
    (h : frame ∈ (detector.trigger trigger).1) :
    (Frame.data frame).InWidth ∧ (Frame.data frame).Unambiguous := by
  have hsynced : ∀ sub : SubFrame, sub.InWidth → ¬ sub.HeaderLike →
      (Frame.data (.synced sub)).InWidth ∧ (Frame.data (.synced sub)).Unambiguous := by
    intro sub hwidth hlike
    refine ⟨⟨?_, hwidth⟩, ?_, ?_⟩
    · intro other hother
      exact absurd hother (by simp [DataFrame.synced])
    · intro other hother
      obtain rfl : other = sub := by simpa [DataFrame.subFrames, DataFrame.synced] using hother
      exact hlike
    · intro hit hhit
      exact absurd hhit (by simp [DataFrame.synced])
  obtain rfl | ⟨quadCol, -, row, hrow, tots, rfl⟩ := eq_synced_of_mem_trigger h
  · exact hsynced _ ⟨Nat.zero_lt_succ 31, trigger.tag_lt, Nat.zero_lt_succ 32767⟩ id
  · refine hsynced _ (Hit.at_inWidth _ _ tots) (Hit.at_not_headerLike ?_)
    rw [UInt16.toNat_ofNat']
    omega

end Detector
end PixelChip

import PixelChip.Proofs.Chip.Digital

/-!
# As many thresholds as pixels

A chip computes thresholds in two nested loops, over columns and rows, and appends each to those
before.  `Checked.thresholds` does the same, and fails where what comes out is not one threshold for
each pixel.  `thresholds_eq` says that it never fails, and that the threshold of each pixel and the
generator are those of `Thresholds.compute`, which takes all draws first.
-/

namespace PixelChip

/-! ## Nested loops -/

namespace Scan

variable {α β γ σ : Type}

lemma through_append (step : α → σ → β × σ) (as bs : List α) (state : σ) :
    through step (as ++ bs) state =
      ((through step as state).1 ++ (through step bs (through step as state).2).1,
        (through step bs (through step as state).2).2) := by
  induction as generalizing state with
  | nil => rfl
  | cons a as ih => simp only [List.cons_append, through, ih]

lemma through_map (step : α → σ → β × σ) (f : γ → α) (inputs : List γ) (state : σ) :
    through step (inputs.map f) state = through (fun c => step (f c)) inputs state := by
  induction inputs generalizing state with
  | nil => rfl
  | cons c inputs ih => simp only [List.map_cons, through, ih]

/-- A loop in a loop is one loop over pairs. -/
lemma through_through (step : α → γ → σ → β × σ) (inner : List γ) (outer : List α) (state : σ) :
    ((through (fun a => through (step a) inner) outer state).1.flatten,
        (through (fun a => through (step a) inner) outer state).2) =
      through (fun pair => step pair.1 pair.2) (outer ×ˢ inner) state := by
  induction outer generalizing state with
  | nil => rfl
  | cons a outer ih =>
      rw [List.product_cons, through_append, through_map, ← ih]
      rfl

/-- Steps of which each makes something of its input and of what it draws. -/
lemma through_draw {step : α → σ → β × σ} {draw : σ → γ × σ} {f : α → γ → β}
    (h : ∀ a state, step a state = (f a (draw state).1, (draw state).2)) (inputs : List α)
    (state : σ) :
    through step inputs state =
      (List.zipWith f inputs (through (fun _ => draw) inputs state).1,
        (through (fun _ => draw) inputs state).2) := by
  induction inputs generalizing state with
  | nil => rfl
  | cons a inputs ih => simp only [through, h, ih, List.zipWith_cons_cons]

lemma length_through (step : α → σ → β × σ) (inputs : List α) (state : σ) :
    (through step inputs state).1.length = inputs.length := by
  induction inputs generalizing state with
  | nil => rfl
  | cons a inputs ih => simp only [through, List.length_cons, ih]

end Scan

/-- Pairs of two counters are the quotients and remainders of one. -/
lemma range_product_range (n : Nat) {m : Nat} (hm : 0 < m) :
    List.range n ×ˢ List.range m = (List.range (n * m)).map fun k => (k / m, k % m) := by
  induction n with
  | zero =>
      rw [Nat.zero_mul]
      rfl
  | succ n ih =>
      have hlast : (List.range m).map (Prod.mk n) =
          (List.range m).map fun j => ((n * m + j) / m, (n * m + j) % m) := by
        apply List.map_congr_left
        intro j hj
        have hlt : j < m := List.mem_range.1 hj
        rw [Nat.mul_comm n, Nat.mul_add_div hm, Nat.div_eq_of_lt hlt, Nat.add_zero,
          Nat.mul_add_mod, Nat.mod_eq_of_lt hlt]
      rw [List.range_succ, Nat.succ_mul, List.range_add, List.map_append, List.map_map, ← ih]
      show (List.range n ++ [n]).flatMap (fun i => (List.range m).map (Prod.mk i)) = _
      rw [List.flatMap_append, List.flatMap_singleton, hlast]
      rfl

/-- Draws of which each is appended to those before. -/
lemma Generator.normals_eq {G : Type} [Generator G] (count : Nat) (generator : G) :
    Generator.normals count generator =
      ((Scan.through (fun _ => Generator.normal) (List.range count) generator).1.toArray,
        (Scan.through (fun _ => Generator.normal) (List.range count) generator).2) := by
  rw [Generator.normals]
  induction count with
  | zero => rfl
  | succ count ih =>
      rw [Nat.fold_succ, ih, List.range_succ, Scan.through_append]
      simp [Scan.through]

/-! ## Thresholds -/

namespace Checked

variable {G : Type} [Generator G]

/-- The threshold of a pixel of a column that deviates by a draw. -/
def deviating (settings : ThresholdSettings) (col : Nat) (z : Float) : Float :=
  Calibration.positivePart
    (settings.nominal col + Calibration.thresholdDispersion (FrontEnd.ofCol col) * z)

/-- The threshold of a pixel of a column, with a draw if thresholds are random. -/
def threshold (settings : ThresholdSettings) (random : Bool) (col : Nat) (generator : G) :
    Float × G :=
  if random then
    let (z, generator) := Generator.normal generator
    (deviating settings col z, generator)
  else (settings.nominal col, generator)

/-- Thresholds in the order of the pixels, if there is one for each. -/
def ofCharges (settings : ThresholdSettings) (charges : List Float) : Option Thresholds :=
  if h : charges.toArray.size = 76800 then some ⟨settings, ⟨charges.toArray, h⟩⟩ else none

/-- The thresholds of the pixels by column and, in each column, by row. -/
def thresholdColumns (settings : ThresholdSettings) (random : Bool) (generator : G) :
    List (List Float) × G :=
  Scan.through (fun col => Scan.through (fun _ => threshold settings random col) (List.range 192))
    (List.range 400) generator

/-- The thresholds of all pixels, one after the other. -/
def thresholds (settings : ThresholdSettings) (random : Bool) (generator : G) :
    Option (Thresholds × G) := do
  let columns := thresholdColumns settings random generator
  let computed ← ofCharges settings columns.1.flatten
  return (computed, columns.2)

omit [Generator G] in
lemma ofCharges_toList (thresholds : Thresholds) :
    ofCharges thresholds.settings thresholds.charges.toList = some thresholds := by
  obtain ⟨settings, charges, hsize⟩ := thresholds
  exact dif_pos hsize

/-- The loops run through the places of the pixels. -/
lemma flatten_thresholdColumns (settings : ThresholdSettings) (random : Bool) (generator : G) :
    ((thresholdColumns settings random generator).1.flatten,
        (thresholdColumns settings random generator).2) =
      Scan.through (fun place => threshold settings random (place / 192)) (List.range 76800)
        generator := by
  have hplaces : List.range 400 ×ˢ List.range 192 =
      (List.range 76800).map fun place => (place / 192, place % 192) :=
    range_product_range 400 (by decide)
  refine (Scan.through_through (fun col _ => threshold settings random col) _ _ generator).trans ?_
  rw [hplaces, Scan.through_map]

omit [Generator G] in
/-- What the loops give makes thresholds, if it is the charges of some thresholds. -/
lemma ofCharges_flatten {columns : List (List Float) × G} {computed : Thresholds × G}
    (h : (columns.1.flatten, columns.2) = (computed.1.charges.toList, computed.2)) :
    ((ofCharges computed.1.settings columns.1.flatten).bind fun thresholds =>
      some (thresholds, columns.2)) = some computed := by
  obtain ⟨hcharges, hgenerator⟩ := Prod.mk.inj h
  rw [hcharges, hgenerator, ofCharges_toList, Option.bind_some]

omit [Generator G] in
lemma toList_uniform (settings : ThresholdSettings) :
    (Thresholds.uniform settings).charges.toList =
      (List.range 76800).map fun place => settings.nominal (place / 192) := by
  apply List.ext_getElem
  · simp
  · intro place _ _
    simp [Thresholds.uniform]

omit [Generator G] in
lemma toList_dispersed (settings : ThresholdSettings) {draws : List Float}
    (h : draws.length = 76800) :
    (Thresholds.dispersed settings draws.toArray).charges.toList =
      List.zipWith (fun place => deviating settings (place / 192)) (List.range 76800) draws := by
  apply List.ext_getElem
  · simp [h]
  · intro place hplace _
    have hdraw : place < draws.length := by simpa [h] using hplace
    simp [Thresholds.dispersed, deviating, List.getElem?_eq_getElem hdraw]

/-- Random thresholds from their draws, whatever these are. -/
lemma compute_draws (settings : ThresholdSettings) {generator : G} {drawn : List Float × G}
    (hdrawn : Generator.normals 76800 generator = (drawn.1.toArray, drawn.2))
    (hlength : drawn.1.length = 76800) :
    ((Thresholds.compute settings true generator).1.charges.toList,
        (Thresholds.compute settings true generator).2) =
      (List.zipWith (fun place => deviating settings (place / 192)) (List.range 76800) drawn.1,
        drawn.2) := by
  rw [Thresholds.compute_of_random settings hdrawn, toList_dispersed settings hlength]

/-- The charges that a pass over all places gives, and the generator after it. -/
lemma through_places (settings : ThresholdSettings) (random : Bool) (generator : G) :
    Scan.through (fun place => threshold settings random (place / 192)) (List.range 76800)
        generator =
      ((Thresholds.compute settings random generator).1.charges.toList,
        (Thresholds.compute settings random generator).2) := by
  cases random with
  | false =>
      have hkeeps : ∀ (place : Nat) (generator : G),
          threshold settings false (place / 192) generator =
            (settings.nominal (place / 192), generator) := fun _ _ => rfl
      rw [Scan.through_of_keeps hkeeps, Thresholds.compute_of_not_random, toList_uniform]
  | true =>
      have hdraws : ∀ (place : Nat) (generator : G),
          threshold settings true (place / 192) generator =
            (deviating settings (place / 192) (Generator.normal generator).1,
              (Generator.normal generator).2) := fun _ _ => rfl
      have hlength := Scan.length_through (fun _ => Generator.normal) (List.range 76800) generator
      rw [List.length_range] at hlength
      exact (Scan.through_draw hdraws _ _).trans
        (compute_draws settings (Generator.normals_eq 76800 generator) hlength).symm

lemma compute_settings (settings : ThresholdSettings) (random : Bool) (generator : G) :
    (Thresholds.compute settings random generator).1.settings = settings := by
  cases random with
  | false => rw [Thresholds.compute_of_not_random, Thresholds.uniform]
  | true =>
      rw [Thresholds.compute_of_random settings (Generator.normals_eq 76800 generator),
        Thresholds.dispersed]

/-- **Each pixel has its threshold.** -/
theorem thresholds_eq (settings : ThresholdSettings) (random : Bool) (generator : G) :
    thresholds settings random generator =
      some (Thresholds.compute settings random generator) := by
  have hcolumns := (flatten_thresholdColumns settings random generator).trans
    (through_places settings random generator)
  have hcomputed := ofCharges_flatten hcolumns
  rw [compute_settings] at hcomputed
  exact hcomputed

end Checked
end PixelChip

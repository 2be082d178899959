import PixelChip.Proofs.Checked.Parsing
import PixelChip.Proofs.Link.LawfulPacket

/-!
# Frames under checks

Only the length of a buffer decides whether it begins with a frame, and all eight bytes of it are
then taken, some of them more than once: the first to see whether it is an aurora code, whether it
starts the blank frame, and whether it is the sync filler.

`sound_parseFrame` says that all of them are there, and `textFrame_eq` that a frame can be
described: the column of a hit, whatever its fields hold, is a number of 16 bits.
-/

namespace PixelChip
namespace Checked

open Guarded

/-! ## Reading -/

/-- The register frame at the start of a buffer. -/
def parseRegisterFrame (src : List UInt8) : Guarded RegisterFrame :=
  if src.length < 8 then throw (.truncated 8 src.length)
  else do
    let code ← check src[0]?
    if Aurora.isLegal code then
      let bytes ← check (bytesFrom src 0 8)
      return RegisterFrame.ofWord (ofBigEndian bytes)
    else throw (.invalidAuroraCode code)

/-- Whether a buffer starts with the blank frame. -/
def isBlank (src : List UInt8) : Option Bool := do
  let first ← src[0]?
  if first = filler then
    let rest ← slice src 1 8
    return rest.all (· = 0)
  else return false

/-- The number of 32 bits at an offset. -/
def wordAt (src : List UInt8) (offset : Nat) : Option Nat := do
  let bytes ← bytesFrom src offset 4
  return ofBigEndian bytes

/-- The first sub-frame of a data frame, unless the sync filler is in its place. -/
def firstSubFrame (src : List UInt8) : Option (Option SubFrame) := do
  let byte ← src[0]?
  if byte = filler then return none
  else
    let word ← wordAt src 0
    return some (.ofWord word)

/-- The data frame at the start of a buffer. -/
def dataFrame (src : List UInt8) : Option DataFrame := do
  let first ← firstSubFrame src
  let word ← wordAt src 4
  return { first, second := .ofWord word }

/-- The frame at the start of a buffer that is long enough. -/
def frameOf (src : List UInt8) : Option Frame := do
  match ← (parseRegisterFrame src).run with
  | .ok frame => return .register frame
  | .error _ =>
    let blank ← isBlank src
    if blank then return .blank
    else
      let frame ← dataFrame src
      return .data frame

/-- The frame at the start of a buffer and its length. -/
def parseFrame (src : List UInt8) : Guarded (Frame × Nat) :=
  if src.isEmpty then throw .identifierMismatch
  else if src.length < 8 then throw (.truncated 8 src.length)
  else do
    let frame ← check (frameOf src)
    return (frame, 8)

variable {src : List UInt8}

theorem settles_parseRegisterFrame (src : List UInt8) :
    Settles (parseRegisterFrame src) (RegisterFrame.parse src) fun _ => 8 ≤ src.length := by
  obtain _ | ⟨code, rest⟩ := src
  · exact settles_throw _
  rw [parseRegisterFrame, RegisterFrame.parse]
  split_ifs with hshort hlegal
  · exact settles_throw _
  · refine Settles.check_bind List.getElem?_cons_zero ?_
    rw [if_pos hlegal]
    refine Settles.check_bind (bytesFrom_eq (by omega)) ?_
    exact settles_pure (by omega)
  · refine Settles.check_bind List.getElem?_cons_zero ?_
    rw [if_neg hlegal]
    exact settles_throw _

lemma parse_of_eight {code : UInt8} {rest : List UInt8} (h : 7 ≤ rest.length) :
    RegisterFrame.parse (code :: rest) =
      if Aurora.isLegal code then
        .ok (RegisterFrame.ofWord (ofBigEndian (code :: rest.take 7)))
      else .error (.invalidAuroraCode code) := by
  have hlength : ¬(code :: rest).length < 8 := by
    rw [List.length_cons]
    omega
  rw [RegisterFrame.parse, if_neg hlength, List.take_succ_cons]

/-- Bytes behind the first eight are of no consequence. -/
lemma parse_take_eight (h : 8 ≤ src.length) :
    RegisterFrame.parse (src.take 8) = RegisterFrame.parse src := by
  obtain _ | ⟨code, rest⟩ := src
  · exact absurd h (by decide)
  have hrest : 7 ≤ rest.length := Nat.le_of_succ_le_succ h
  have hseven : 7 ≤ (rest.take 7).length := by
    rw [List.length_take]
    omega
  rw [List.take_succ_cons, parse_of_eight hseven, parse_of_eight hrest, List.take_take,
    Nat.min_self]

lemma isBlank_eq (h : 8 ≤ src.length) :
    isBlank src = some (decide (src.take 8 = Frame.blankBytes)) := by
  obtain _ | ⟨byte, rest⟩ := src
  · exact absurd h (by decide)
  have hseven : (rest.take 7).length = 7 := by
    rw [List.length_take]
    rw [List.length_cons] at h
    omega
  have hzeros : rest.take 7 = List.replicate 7 0 ↔ ∀ zero ∈ rest.take 7, zero = 0 := by
    rw [List.eq_replicate_iff]
    exact and_iff_right hseven
  rw [isBlank, List.getElem?_cons_zero, Option.bind_eq_bind, Option.bind_some,
    slice_eq (by decide) h, Frame.blankBytes, List.take_succ_cons]
  by_cases hfirst : byte = filler
  · simp [hfirst, List.all_eq, ← hzeros]
  · simp [hfirst]

lemma wordAt_eq {offset : Nat} (h : offset + 4 ≤ src.length) :
    wordAt src offset = some (ofBigEndian ((src.drop offset).take 4)) := by
  rw [wordAt, bytesFrom_eq h]
  rfl

lemma dataFrame_eq (h : 8 ≤ src.length) :
    dataFrame src = some (DataFrame.ofBytes (src.take 8)) := by
  have hfirst : firstSubFrame src = some (DataFrame.ofBytes (src.take 8)).first := by
    obtain _ | ⟨byte, rest⟩ := src
    · exact absurd h (by decide)
    rw [firstSubFrame, List.getElem?_cons_zero, Option.bind_eq_bind, Option.bind_some,
      wordAt_eq (by omega), DataFrame.ofBytes, List.take_take]
    by_cases hbyte : byte = filler
    · simp [hbyte]
    · simp [hbyte]
  rw [dataFrame, hfirst, wordAt_eq h, DataFrame.ofBytes, List.drop_take]
  rfl

lemma frameOf_eq (h : 8 ≤ src.length) : frameOf src = some (Frame.ofBytes (src.take 8)) := by
  rw [frameOf, (settles_parseRegisterFrame src).1, Frame.ofBytes, parse_take_eight h, isBlank_eq h,
    dataFrame_eq h]
  cases RegisterFrame.parse src with
  | ok frame => rfl
  | error cause =>
      by_cases hblank : src.take 8 = Frame.blankBytes
      · simp [hblank]
      · simp [hblank]

theorem sound_parseFrame : Sound id parseFrame Frame.parse := by
  refine sound_id fun src => ?_
  rw [parseFrame, Frame.parse]
  split_ifs with hempty hshort
  · exact settles_throw _
  · exact settles_throw _
  · refine Settles.check_bind (frameOf_eq (by omega)) ?_
    exact settles_pure ⟨Nat.succ_pos _, by omega⟩

/-! ## Describing -/

/-- Pixel column of the slot `i` of a quad. -/
def hitColumn (hit : Hit) (i : Nat) : Option Nat := do
  let first ← word (hit.quadCol * 4)
  word (first + i)

/-- The text of a sub-frame. -/
def textSubFrame : SubFrame → Option String
  | .header h => return (SubFrame.header h).text
  | .hit h => do
    let col ← hitColumn h 0
    return "Hit col: " ++ Text.decimal col ++ ", row: " ++ Text.decimal h.row ++ ", tot: ["
      ++ ", ".intercalate (h.tots.toList.map fun tot => Text.decimal tot.toNat) ++ "]"

/-- The line that describes a frame. -/
def textFrame : Frame → Option String
  | .register r => return r.text
  | .data d => do
    let first ← d.first.elim (some "Syn") textSubFrame
    let second ← textSubFrame d.second
    return "DataFrame " ++ first ++ " | " ++ second
  | .blank => return "BlankFrame"

lemma hitColumn_eq (hit : Hit) {i : Nat} (h : i < 4) : hitColumn hit i = some (hit.col i) := by
  have hquad : hit.quadCol < 512 := by
    have hcore := hit.coreCol.toNat_lt
    have hregion : hit.coreRegion.toNat % 2 < 2 := Nat.mod_lt _ (by decide)
    rw [Hit.quadCol]
    omega
  rw [hitColumn, word_eq (by omega), Option.bind_eq_bind, Option.bind_some, word_eq (by omega),
    Hit.col, Nat.mul_comm]

lemma textSubFrame_eq (sub : SubFrame) : textSubFrame sub = some sub.text := by
  cases sub with
  | header h => rfl
  | hit h =>
      rw [textSubFrame, hitColumn_eq h (by decide)]
      rfl

theorem textFrame_eq (frame : Frame) : textFrame frame = some frame.text := by
  cases frame with
  | register r => rfl
  | data d =>
      obtain ⟨first, second⟩ := d
      cases first with
      | none =>
          rw [textFrame, textSubFrame_eq]
          rfl
      | some sub =>
          rw [textFrame, Option.elim_some, textSubFrame_eq, textSubFrame_eq]
          rfl
  | blank => rfl

end Checked
end PixelChip

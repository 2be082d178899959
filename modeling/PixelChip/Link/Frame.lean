import PixelChip.Link.ParseError

/-!
# Frames of the chip

The frames that a chip sends. A register frame reports two register values, a data frame carries
two sub-frames, and a blank frame is timing filler. A sub-frame is an event header or the hit of
one quad, four pixels side by side in a row. Where a data frame has the sync filler in the place
of its first sub-frame, `first` is `none`.

Fields are stored as they are given, as for commands; the wire keeps the low bits of a field that
is too wide, and `Frame.InWidth` says that there is none.
-/

namespace PixelChip

/-- One address and value reported by a register frame. -/
structure RegisterSlot where
  /-- Ten bits. -/
  address : UInt16
  value : UInt16
  /-- Reported by the rotating cursor rather than on request. -/
  autoRead : Bool
  deriving DecidableEq, Repr

/-- Two register values, with the status of the chip. -/
structure RegisterFrame where
  /-- Four bits. -/
  status : UInt8
  first : RegisterSlot
  second : RegisterSlot
  error : Bool
  deriving DecidableEq, Repr

/-- Start of the data of one triggered crossing. -/
structure EventHeader where
  /-- Five bits. -/
  triggerId : UInt8
  /-- Five bits. -/
  triggerTag : UInt8
  /-- Fifteen bits. -/
  bcid : UInt16
  deriving DecidableEq, Repr

/-- One value for each of the four pixels of a quad, by ascending column. -/
structure Quad (α : Type) where
  p0 : α
  p1 : α
  p2 : α
  p3 : α
  deriving DecidableEq, Repr

namespace Quad

/-- Applies a function to all four values. -/
def map {α β : Type} (f : α → β) (quad : Quad α) : Quad β :=
  ⟨f quad.p0, f quad.p1, f quad.p2, f quad.p3⟩

/-- The values by ascending column. -/
def toList {α : Type} (quad : Quad α) : List α :=
  [quad.p0, quad.p1, quad.p2, quad.p3]

end Quad

/-- Time over threshold of the pixels of one quad. -/
structure Hit where
  /-- Six bits. -/
  coreCol : UInt8
  /-- Six bits. -/
  coreRow : UInt8
  /-- Four bits. -/
  coreRegion : UInt8
  /-- Four bits for each pixel. -/
  tots : Quad UInt8
  deriving DecidableEq, Repr

/-- Half of a data frame. -/
inductive SubFrame where
  | header (header : EventHeader)
  | hit (hit : Hit)
  deriving DecidableEq, Repr

/-- Two sub-frames, the first of which may be the sync filler. -/
structure DataFrame where
  first : Option SubFrame
  second : SubFrame
  deriving DecidableEq, Repr

/-- A frame on the link from the chip to the host. -/
inductive Frame where
  | register (frame : RegisterFrame)
  | data (frame : DataFrame)
  /-- Timing filler. -/
  | blank
  deriving DecidableEq, Repr

/-! ## Checking constructors -/

/-- A register frame without error whose fields fit. -/
def RegisterFrame.checked (status : UInt8) (first second : RegisterSlot) :
    Except ParseError RegisterFrame := do
  checkWidth "status" status.toNat 4
  checkWidth "address" first.address.toNat 10
  checkWidth "address" second.address.toNat 10
  return { status, first, second, error := false }

/-- An event header whose fields fit. -/
def EventHeader.checked (triggerId triggerTag : UInt8) (bcid : UInt16) :
    Except ParseError EventHeader := do
  checkWidth "trigger_id" triggerId.toNat 5
  checkWidth "trigger_tag" triggerTag.toNat 5
  checkWidth "bcid" bcid.toNat 15
  return { triggerId, triggerTag, bcid }

/-! ## Where a hit lies

A core is 8 columns by 8 rows and holds sixteen quads. The lowest bit of the region is the half
of the core, the other bits the row within it. -/

/-- The hit of the quad at a quad column and row. Coordinates and values keep the bits that the
wire has for them. -/
def Hit.at (quadCol row : UInt16) (tots : Quad UInt8) : Hit where
  coreCol := .ofNat (quadCol.toNat / 2 % 64)
  coreRow := .ofNat (row.toNat / 8 % 64)
  coreRegion := .ofNat (2 * (row.toNat % 8) + quadCol.toNat % 2)
  tots := tots.map (· % 16)

/-- Quad column, in units of four pixel columns. -/
def Hit.quadCol (hit : Hit) : Nat :=
  2 * hit.coreCol.toNat + hit.coreRegion.toNat % 2

/-- Pixel row. The bits of core row and region are superposed, which is their sum when the region
is within its width. -/
def Hit.row (hit : Hit) : Nat :=
  8 * hit.coreRow.toNat ||| hit.coreRegion.toNat / 2

/-- Pixel column of the slot `i` of the quad. -/
def Hit.col (hit : Hit) (i : Nat) : Nat :=
  4 * hit.quadCol + i

/-- The pixels with a nonzero time over threshold, as column, row and time. -/
def Hit.pixels (hit : Hit) : List (Nat × Nat × UInt8) :=
  (hit.tots.toList.zipIdx.filter fun (tot, _) => tot ≠ 0).map
    fun (tot, i) => (hit.col i, hit.row, tot)

/-! ## Kinds of frames -/

/-- Which sub-frames a data frame carries. -/
inductive DataFormat where
  | headerHeader
  | headerHit
  | hitHeader
  | hitHit
  | syncHeader
  | syncHit
  deriving DecidableEq, Repr

/-- A data frame with the sync filler in the first place. -/
def DataFrame.synced (second : SubFrame) : DataFrame where
  first := none
  second := second

/-- The combination of sub-frames. -/
def DataFrame.format (frame : DataFrame) : DataFormat :=
  match frame.first, frame.second with
  | none, .header _ => .syncHeader
  | none, .hit _ => .syncHit
  | some (.header _), .header _ => .headerHeader
  | some (.header _), .hit _ => .headerHit
  | some (.hit _), .header _ => .hitHeader
  | some (.hit _), .hit _ => .hitHit

/-- The sub-frames in the order of the wire, without the sync filler. -/
def DataFrame.subFrames (frame : DataFrame) : List SubFrame :=
  frame.first.toList ++ [frame.second]

/-- Whether the frame reports registers. -/
def Frame.isService : Frame → Bool
  | register _ => true
  | _ => false

/-! ## Widths -/

/-- Every field of the sub-frame is within its width. -/
def SubFrame.InWidth : SubFrame → Prop
  | header h => h.triggerId.toNat < 32 ∧ h.triggerTag.toNat < 32 ∧ h.bcid.toNat < 32768
  | hit h => h.coreCol.toNat < 64 ∧ h.coreRow.toNat < 64 ∧ h.coreRegion.toNat < 16 ∧
      ∀ tot ∈ h.tots.toList, tot.toNat < 16

/-- Every field of the frame is within its width, and a register frame with the error flag has no
slot marked as reported by the cursor. -/
def Frame.InWidth : Frame → Prop
  | register r => r.status.toNat < 16 ∧ r.first.address.toNat < 1024 ∧
      r.second.address.toNat < 1024 ∧
      (r.error → r.first.autoRead = false ∧ r.second.autoRead = false)
  | data d => (∀ sub ∈ d.first, sub.InWidth) ∧ d.second.InWidth
  | blank => True

end PixelChip

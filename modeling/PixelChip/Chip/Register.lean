import PixelChip.Chip.AccessError

/-!
# Configuration registers

The chip has 138 registers of 16 bits. The file keeps their values and, for each register, whether
it was written since the flags were last drained. Most registers hold several bit fields; a field
is a range of bits of one register, and only those that the chip model acts on have names.

Addresses past the end read as 0, like unimplemented addresses of the chip, and refuse writes.
-/

namespace PixelChip

/-- A range of bits within one register, from the place that the offset tells. Bits that reach past
the register do not exist. -/
structure Field where
  address : Nat
  offset : Nat
  width : Nat
  deriving DecidableEq, Repr

namespace Field

/-- The place of the first bit. A register has 16 places, and an offset past the last of them is
counted around. -/
def start (field : Field) : Nat :=
  field.offset % 16

/-- As many ones as the field is wide. -/
def mask (field : Field) : BitVec 16 :=
  (BitVec.allOnes field.width).setWidth 16

/-- Access to the pixel pair that the region registers select. -/
def pixPortal : Field := ⟨0, 0, 16⟩

/-- Double column of the selected pixel pair. -/
def regionCol : Field := ⟨1, 0, 8⟩

/-- Row of the selected pixel pair. -/
def regionRow : Field := ⟨2, 0, 9⟩

/-- Feedback current of the synchronous front end. -/
def ibiasKrumSync : Field := ⟨8, 0, 16⟩

/-- Threshold of the synchronous front end. -/
def vthSync : Field := ⟨12, 0, 16⟩

/-- Feedback current of the linear front end. -/
def krumCurrLin : Field := ⟨16, 0, 9⟩

/-- Threshold of the linear front end. -/
def vthLin : Field := ⟨20, 0, 10⟩

/-- Feedback of the differential front end. -/
def vffDiff : Field := ⟨25, 0, 10⟩

/-- Threshold of the differential front end. -/
def vth1Diff : Field := ⟨26, 0, 10⟩

/-- Enable bits of the core columns 0 to 15. -/
def enCoreColSync : Field := ⟨32, 0, 16⟩

/-- Enable bits of the core columns 16 to 31. -/
def enCoreColLin1 : Field := ⟨33, 0, 16⟩

/-- Enable bit of the core column 32. -/
def enCoreColLin2 : Field := ⟨34, 0, 1⟩

/-- Enable bits of the core columns 33 to 48. -/
def enCoreColDiff1 : Field := ⟨35, 0, 16⟩

/-- Enable bit of the core column 49. -/
def enCoreColDiff2 : Field := ⟨36, 0, 1⟩

/-- Whether injections are digital. -/
def injModeDig : Field := ⟨39, 4, 1⟩

/-- Upper level of an analog injection. -/
def vcalHigh : Field := ⟨41, 0, 12⟩

/-- Lower level of an analog injection. -/
def vcalMed : Field := ⟨42, 0, 12⟩

/-- Frames between monitor frames. -/
def monFrameSkip : Field := ⟨45, 0, 8⟩

/-- Result of the last conversion of the monitoring ADC. -/
def adcRead : Field := ⟨136, 0, 16⟩

end Field

/-- Values at power-on, by address. Registers not listed start at 0. -/
def powerOnValues : List (Nat × UInt16) :=
  [(4, 0x9CE2), (5, 100), (6, 150), (7, 100), (8, 140), (9, 200), (10, 100), (11, 450),
   (12, 300), (13, 490), (14, 300), (15, 20), (16, 50), (17, 80), (18, 110), (19, 300),
   (20, 408), (21, 533), (22, 542), (23, 551), (24, 528), (25, 164), (26, 1023), (28, 20),
   (29, 2), (30, 4), (31, 0x210), (32, 0xFF), (33, 0xFF), (34, 1), (35, 0xFF), (36, 1),
   (37, 500), (38, 16), (39, 16), (41, 500), (42, 300), (45, 50),
   (46, 0xFFFF), (47, 0xFFFF), (48, 0xFFFF), (49, 0xFFFF), (50, 0xFFFF), (51, 0xFFFF),
   (52, 0xFFFF), (53, 0xFFFF), (54, 0xF), (55, 0xFFFF), (56, 0xFFFF), (57, 0xFFFF),
   (58, 0xFFFF), (59, 0xF), (61, 4), (69, 0xF), (70, 500), (73, 103), (74, 0xF0), (75, 15),
   (76, 32), (101, 136), (102, 130), (103, 118), (104, 119), (105, 120), (106, 121),
   (107, 122), (108, 123)]

/-- Register values, and which registers were written since the last drain. -/
structure RegisterFile where
  values : Vector UInt16 138
  updated : Vector Bool 138

namespace RegisterFile

/-- The registers at power-on. -/
def powerOn : RegisterFile where
  values := Vector.ofFn fun address => (powerOnValues.lookup address.val).getD 0
  updated := Vector.replicate 138 false

/-- The value at an address. -/
def get (registers : RegisterFile) (address : Nat) : UInt16 :=
  registers.values[address]?.getD 0

/-- Writes a register. -/
def set (registers : RegisterFile) (address : Nat) (value : UInt16) :
    Except AccessError RegisterFile :=
  if h : address < 138 then
    .ok
      { values := registers.values.set address value h
        updated := registers.updated.set address true h }
  else .error (.invalidRegisterAddress address)

/-- The value of a field. -/
def field (registers : RegisterFile) (field : Field) : UInt16 :=
  .ofBitVec ((registers.get field.address).toBitVec >>> field.start &&& field.mask)

/-- Writes a field and keeps the other bits of its register. Of the value, the bits that the field
has are used. -/
def setField (registers : RegisterFile) (field : Field) (value : UInt16) :
    Except AccessError RegisterFile :=
  let mask := field.mask <<< field.start
  let current := (registers.get field.address).toBitVec
  registers.set field.address
    (.ofBitVec ((current &&& ~~~mask) ||| (value.toBitVec <<< field.start &&& mask)))

/-- The addresses written since the last drain, in ascending order, and the file with its flags
cleared. -/
def drain (registers : RegisterFile) : List Nat × RegisterFile :=
  ((List.range 138).filter fun address => registers.updated[address]?.getD false,
   { registers with updated := Vector.replicate 138 false })

end RegisterFile
end PixelChip

import PixelChip.Numeral
import PixelChip.Link.Frame

/-!
# Frames on the wire

Every frame is eight bytes. A register frame starts with one of five aurora codes, which stand for
its flags. A blank frame is the filler `1E` and seven zeros. Anything else is a data frame of two
words of 32 bits.

Since the kind of a frame is inferred from its bytes, some data frames cannot be told apart:

* a hit in core column 0 and core row 32 or above has the bits of an event header;
* a hit in the first place reads as the sync filler if its first byte is `1E`, and makes the whole
  frame read as a register frame if that byte is an aurora code.

The matrix ends at core row 23 and a chip always sends the sync filler in the first place, so it
sends none of these.
-/

namespace PixelChip

/-- The bytes of a number in a field of `count` bytes. -/
def bigEndian (count n : Nat) : List UInt8 :=
  (Numeral.expand 256 count n).map UInt8.ofNat

/-- The number that some bytes denote, the most significant byte first. -/
def ofBigEndian (bytes : List UInt8) : Nat :=
  Numeral.value 256 (bytes.map UInt8.toNat)

/-! ## Aurora codes -/

namespace Aurora

/-- Both slots reported by the cursor. -/
def autoAuto : UInt8 := 0xB4

/-- First slot reported by the cursor, second on request. -/
def autoRead : UInt8 := 0x55

/-- First slot reported on request, second by the cursor. -/
def readAuto : UInt8 := 0x99

/-- Both slots reported on request. -/
def readRead : UInt8 := 0xD2

/-- The chip reports an error. -/
def error : UInt8 := 0xCC

/-- Whether the code starts a register frame. -/
def isLegal (code : UInt8) : Bool :=
  [autoAuto, autoRead, readAuto, readRead, error].contains code

/-- The meaning of a code in words. -/
def describe (code : UInt8) : String :=
  if code = autoAuto then "both fields auto-read"
  else if code = autoRead then "first auto-read, second read-register"
  else if code = readAuto then "first read-register, second auto-read"
  else if code = readRead then "both fields read-register"
  else if code = error then "error"
  else "invalid"

end Aurora

namespace RegisterFrame

/-- The code for the flags of a frame. The error flag hides the others. -/
def auroraCode (frame : RegisterFrame) : UInt8 :=
  if frame.error then Aurora.error
  else match frame.first.autoRead, frame.second.autoRead with
    | true, true => Aurora.autoAuto
    | true, false => Aurora.autoRead
    | false, true => Aurora.readAuto
    | false, false => Aurora.readRead

/-- The frame with the flags that a code stands for. An illegal code sets the error flag and
clears the others, as the error code does. -/
def withAuroraCode (code : UInt8) (frame : RegisterFrame) : RegisterFrame :=
  { frame with
    first := { frame.first with autoRead := code = Aurora.autoAuto ∨ code = Aurora.autoRead }
    second := { frame.second with autoRead := code = Aurora.autoAuto ∨ code = Aurora.readAuto }
    error := code = Aurora.error ∨ !Aurora.isLegal code }

/-- The frame as one number of 64 bits. -/
def word (frame : RegisterFrame) : Nat :=
  frame.auroraCode.toNat <<< 56
    + (frame.status.toNat % 16) <<< 52
    + (frame.first.address.toNat % 1024) <<< 42
    + frame.first.value.toNat <<< 26
    + (frame.second.address.toNat % 1024) <<< 16
    + frame.second.value.toNat

/-- The frame that a number of 64 bits denotes. -/
def ofWord (word : Nat) : RegisterFrame :=
  withAuroraCode (.ofNat (word >>> 56))
    { status := .ofNat (word >>> 52 % 16)
      first := ⟨.ofNat (word >>> 42 % 1024), .ofNat (word >>> 26), false⟩
      second := ⟨.ofNat (word >>> 16 % 1024), .ofNat word, false⟩
      error := false }

/-- The register frame at the start of a buffer. -/
def parse (src : List UInt8) : Except ParseError RegisterFrame :=
  if src.length < 8 then .error (.truncated 8 src.length)
  else match src with
    | [] => .error (.pastEnd 0)
    | code :: _ =>
      if Aurora.isLegal code then .ok (ofWord (ofBigEndian (src.take 8)))
      else .error (.invalidAuroraCode code)

end RegisterFrame

/-! ## Data frames -/

namespace SubFrame

/-- The sync filler in the first place of a data frame. -/
def syncWord : Nat := 0x1E040000

/-- The sub-frame as one number of 32 bits. The top seven bits of a header are a one. -/
def word : SubFrame → Nat
  | header h =>
    1 <<< 25 + (h.triggerId.toNat % 32) <<< 20 + (h.triggerTag.toNat % 32) <<< 15
      + h.bcid.toNat % 32768
  | hit h =>
    (h.coreCol.toNat % 64) <<< 26 + (h.coreRow.toNat % 64) <<< 20
      + (h.coreRegion.toNat % 16) <<< 16
      + (h.tots.p0.toNat % 16) <<< 12 + (h.tots.p1.toNat % 16) <<< 8
      + (h.tots.p2.toNat % 16) <<< 4 + h.tots.p3.toNat % 16

/-- The sub-frame that a number of 32 bits denotes. -/
def ofWord (word : Nat) : SubFrame :=
  if word >>> 25 = 1 then
    header
      { triggerId := .ofNat (word >>> 20 % 32)
        triggerTag := .ofNat (word >>> 15 % 32)
        bcid := .ofNat (word % 32768) }
  else
    hit
      { coreCol := .ofNat (word >>> 26 % 64)
        coreRow := .ofNat (word >>> 20 % 64)
        coreRegion := .ofNat (word >>> 16 % 16)
        tots := ⟨.ofNat (word >>> 12 % 16), .ofNat (word >>> 8 % 16),
          .ofNat (word >>> 4 % 16), .ofNat (word % 16)⟩ }

end SubFrame

/-- First byte of a blank frame and of the sync filler. -/
def filler : UInt8 := 0x1E

/-- The data frame of eight bytes. Any filler byte in the first place stands for the sync
filler. -/
def DataFrame.ofBytes (bytes : List UInt8) : DataFrame where
  first :=
    if bytes.head? = some filler then none
    else some (SubFrame.ofWord (ofBigEndian (bytes.take 4)))
  second := SubFrame.ofWord (ofBigEndian (bytes.drop 4))

namespace Frame

/-- The bytes of the blank frame. -/
def blankBytes : List UInt8 :=
  filler :: List.replicate 7 0

/-- The wire encoding. -/
def encode : Frame → List UInt8
  | register r => bigEndian 8 r.word
  | data d =>
    bigEndian 4 (d.first.elim SubFrame.syncWord SubFrame.word) ++ bigEndian 4 d.second.word
  | blank => blankBytes

/-- The frame of eight bytes: a register frame, the blank frame, or else a data frame. -/
def ofBytes (bytes : List UInt8) : Frame :=
  match RegisterFrame.parse bytes with
  | .ok r => register r
  | .error _ => if bytes = blankBytes then blank else data (DataFrame.ofBytes bytes)

/-- The frame at the start of a buffer and its length. Any eight bytes are a frame. -/
def parse (src : List UInt8) : Except ParseError (Frame × Nat) :=
  if src.isEmpty then .error .identifierMismatch
  else if src.length < 8 then .error (.truncated 8 src.length)
  else .ok (ofBytes (src.take 8), 8)

end Frame
end PixelChip

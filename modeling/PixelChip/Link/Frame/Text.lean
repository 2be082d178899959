import PixelChip.Link.Frame.Wire

/-!
# Frames in text

One line of text for each frame, with the fields as they are stored.
-/

namespace PixelChip

/-- The status of a register frame in words. -/
def RegisterFrame.statusText (frame : RegisterFrame) : String :=
  match frame.status.toNat with
  | 0 | 4 => "Ready"
  | 1 => "There has been an error"
  | 2 => "There has been a warning"
  | 3 => "There has been an error and a warning"
  | 5 => "Busy"
  | 6 => "No input lock"
  | _ => "Spare"

/-- The text of one slot of a register frame, which names its place. -/
def RegisterSlot.text (place : String) (slot : RegisterSlot) : String :=
  ", addr" ++ place ++ ": 0x" ++ Text.hex 3 slot.address.toNat
    ++ ", val" ++ place ++ ": 0x" ++ Text.hex 4 slot.value.toNat
    ++ (if slot.autoRead then " (auto)" else "")

/-- The line that describes a register frame. -/
def RegisterFrame.text (frame : RegisterFrame) : String :=
  "RegisterFrame code: 0x" ++ Text.hex 2 frame.auroraCode.toNat
    ++ " (" ++ Aurora.describe frame.auroraCode ++ "), status: 0x"
    ++ Text.hex 1 frame.status.toNat ++ " (" ++ frame.statusText ++ ")"
    ++ frame.first.text "0" ++ frame.second.text "1"

/-- The text of a sub-frame: a hit is named by the position of its first pixel. -/
def SubFrame.text : SubFrame → String
  | header h =>
    "Hdr tid: " ++ Text.decimal h.triggerId.toNat ++ ", tag: " ++ Text.decimal h.triggerTag.toNat
      ++ ", bcid: " ++ Text.decimal h.bcid.toNat
  | hit h =>
    "Hit col: " ++ Text.decimal (h.col 0) ++ ", row: " ++ Text.decimal h.row ++ ", tot: ["
      ++ ", ".intercalate (h.tots.toList.map fun tot => Text.decimal tot.toNat) ++ "]"

/-- The line that describes a frame. -/
def Frame.text : Frame → String
  | register r => r.text
  | data d => "DataFrame " ++ d.first.elim "Syn" SubFrame.text ++ " | " ++ d.second.text
  | blank => "BlankFrame"

end PixelChip

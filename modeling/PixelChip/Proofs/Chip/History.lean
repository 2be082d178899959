import PixelChip.Proofs.Chip.Run

/-!
# What a run executes and sends

A chip keeps the frames of its last call of `process` only.  What it executed and sent along a whole
run is collected here, call by call.  Of the frames that were sent, `reported` lists the register
slots, in the order of the frames and the first slot of a frame before the second.
-/

namespace PixelChip

/-- The address that a command asks to be reported. -/
def Command.requested? : Command → Option UInt16
  | read r => some r.address
  | _ => none

namespace RegisterSlot

/-- The slots that were reported on request. -/
def answers (slots : List RegisterSlot) : List RegisterSlot :=
  slots.filter fun slot => !slot.autoRead

/-- The slots that the cursor chose. -/
def autoReads (slots : List RegisterSlot) : List RegisterSlot :=
  slots.filter fun slot => slot.autoRead

@[simp] lemma answers_append (slots slots' : List RegisterSlot) :
    answers (slots ++ slots') = answers slots ++ answers slots' :=
  List.filter_append ..

@[simp] lemma autoReads_append (slots slots' : List RegisterSlot) :
    autoReads (slots ++ slots') = autoReads slots ++ autoReads slots' :=
  List.filter_append ..

end RegisterSlot

namespace Frame

def data? : Frame → Option DataFrame
  | data d => some d
  | register _ | blank => none

/-- The registers that a frame reports. -/
def slots : Frame → List RegisterSlot
  | register r => [r.first, r.second]
  | data _ | blank => []

/-- The registers that some frames report. -/
def reported (frames : List Frame) : List RegisterSlot :=
  frames.flatMap slots

@[simp] lemma reported_nil : reported [] = [] := rfl

@[simp] lemma reported_append (frames frames' : List Frame) :
    reported (frames ++ frames') = reported frames ++ reported frames' :=
  List.flatMap_append

@[simp] lemma reported_register (r : RegisterFrame) : reported [register r] = [r.first, r.second] :=
  rfl

@[simp] lemma reported_data (d : DataFrame) : reported [data d] = [] := rfl

/-- Every register that some frames report is in one of them. -/
lemma exists_of_mem_reported {frames : List Frame} {slot : RegisterSlot}
    (h : slot ∈ reported frames) :
    ∃ frame : RegisterFrame, register frame ∈ frames ∧ slot ∈ [frame.first, frame.second] := by
  obtain ⟨frame, hframe, hslot⟩ := List.mem_flatMap.1 h
  cases frame with
  | register frame => exact ⟨frame, hframe, hslot⟩
  | data frame => exact absurd hslot List.not_mem_nil
  | blank => exact absurd hslot List.not_mem_nil

end Frame

namespace Chip

variable {G α : Type}

/-- Pushing a command adds it to the queue if the inlet admits it, and does nothing else. -/
lemma push_snd (chip : Chip G) (command : Command) :
    (chip.push command).2 =
      { chip with queue := chip.queue ++ [command].filter chip.inlet.admits } := by
  unfold push
  by_cases hadmits : chip.inlet.admits command = true
  · rw [if_pos hadmits, List.filter_cons_of_pos hadmits, List.filter_nil]
  · rw [if_neg hadmits, List.filter_cons_of_neg hadmits, List.filter_nil, List.append_nil]

variable [Generator G]

/-- What is observed of an operation, if only calls of `process` show anything.  What a call shows
is taken from the chip before it. -/
def Operation.shown (observe : Chip G → List α) (chip : Chip G) : Operation → List α
  | process => observe chip
  | _ => []

/-- What the calls of `process` show along a run, one after another. -/
def collected (observe : Chip G → List α) (chip : Chip G) : List Operation → List α
  | [] => []
  | operation :: operations =>
    operation.shown observe chip ++ (operation.apply chip).collected observe operations

/-- The commands that a run executes. -/
def executed (chip : Chip G) (operations : List Operation) : List Command :=
  chip.collected Chip.queue operations

/-- The frames that a run makes. -/
def emitted (chip : Chip G) (operations : List Operation) : List Frame :=
  chip.collected (fun chip => chip.process.frames) operations

/-- The bytes that a run puts on the wire. -/
def sent (chip : Chip G) (operations : List Operation) : List UInt8 :=
  chip.collected (fun chip => chip.process.bytes) operations

@[simp] lemma run_nil (chip : Chip G) : chip.run [] = chip := rfl

@[simp] lemma run_cons (chip : Chip G) (operation : Operation) (operations : List Operation) :
    chip.run (operation :: operations) = (operation.apply chip).run operations := rfl

lemma run_append (chip : Chip G) (operations operations' : List Operation) :
    chip.run (operations ++ operations') = (chip.run operations).run operations' :=
  List.foldl_append

/-- What is collected along two runs, the second from where the first ends. -/
lemma collected_append (observe : Chip G → List α) (chip : Chip G)
    (operations operations' : List Operation) :
    chip.collected observe (operations ++ operations') =
      chip.collected observe operations ++ (chip.run operations).collected observe operations' := by
  induction operations generalizing chip with
  | nil => rfl
  | cons operation operations ih =>
      rw [List.cons_append, collected, ih, collected, List.append_assoc, run_cons]

end Chip
end PixelChip

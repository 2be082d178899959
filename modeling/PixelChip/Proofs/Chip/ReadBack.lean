import PixelChip.Proofs.Chip.Access
import PixelChip.Proofs.Chip.Inlet
import PixelChip.Proofs.Chip.Interval
import PixelChip.Proofs.Chip.Output
import PixelChip.Proofs.Chip.Quiet
import PixelChip.Proofs.Link.Resynchronisation
import PixelChip.Random.Draw

/-!
# A written register is read back over the wire

A host that writes a register and asks for it finds the value in a service frame, behind the answers
to all requests that waited before.  Commands that are encoded reach the queue as they are, the
answer comes within the calls that `Quiet.asked_length_le` counts, and the bytes of all these calls
decode to the frames that were made.
-/

namespace PixelChip
namespace Chip

variable {G : Type} {chip : Chip G} {chipId : UInt8} {address : UInt16}

/-! ## What reaches the queue -/

/-- Commands that are encoded and admitted reach the queue as they are. -/
lemma receive_encodeAll {commands : List Command} (hwidth : ∀ command ∈ commands, command.InWidth)
    (hadmits : ∀ command ∈ commands, chip.inlet.admits command = true) :
    (chip.receive (encodeAll commands)).2 = { chip with queue := chip.queue ++ commands } := by
  have hadmitted : chip.inlet.admitted (encodeAll commands) = commands := by
    rw [Inlet.admitted_encodeAll _ hwidth, List.filter_eq_self]
    exact hadmits
  show ({ chip with queue := chip.queue ++ chip.inlet.admitted (encodeAll commands) } : Chip G) = _
  rw [hadmitted]

lemma admits_of_accepted {command : Command} (hid : command.chipId? = some chipId)
    (h : broadcastId ≤ chipId ∨ chipId = chip.id) : chip.inlet.admits command = true := by
  unfold Inlet.admits Command.addresses
  rw [hid]
  rcases h with h | h <;> simp [inlet, h]

/-- The commands that write a value to an address and ask for it. -/
def writeRead (chipId : UInt8) (address value : UInt16) : List Command :=
  [.write ⟨chipId, address, .single value⟩, .read ⟨chipId, address⟩]

/-- The queue of a chip that got a write and a read, if it was empty before. -/
lemma receive_writeRead (hqueue : chip.queue = []) (hid : chipId.toNat < 16)
    (haccepted : broadcastId ≤ chipId ∨ chipId = chip.id) (haddress : address.toNat < 512)
    (value : UInt16) :
    (chip.receive (encodeAll (writeRead chipId address value))).2 =
      { chip with queue := writeRead chipId address value } := by
  have hadmits : ∀ command ∈ writeRead chipId address value,
      chip.inlet.admits command = true := by
    intro command hcommand
    rcases List.mem_pair.1 hcommand with rfl | rfl
    · exact admits_of_accepted rfl haccepted
    · exact admits_of_accepted rfl haccepted
  have hwidth : ∀ command ∈ writeRead chipId address value, command.InWidth := by
    intro command hcommand
    rcases List.mem_pair.1 hcommand with rfl | rfl
    · exact ⟨hid, haddress⟩
    · exact ⟨hid, haddress⟩
  rw [receive_encodeAll hwidth hadmits, hqueue, List.nil_append]

variable [Generator G]

/-! ## What a run sends -/

/-- The interval is never 0. -/
lemma Reachable.interval_pos (h : Reachable chip) : 0 < chip.readout.interval.toNat := by
  induction h with
  | powerOn id mode generator => exact Nat.zero_lt_succ 9
  | step operation _ _ ih => exact operation.apply_interval_pos ih

/-- What a run sends are the bytes of its frames, and the wire has room for these. -/
lemma Reachable.sent_eq (h : Reachable chip) {operations : List Operation}
    (hvalid : ∀ operation ∈ operations, operation.Valid) :
    chip.sent operations = encodeAll (chip.emitted operations) ∧
      ∀ frame ∈ chip.emitted operations, frame.Sound := by
  induction operations generalizing chip with
  | nil => exact ⟨rfl, fun frame hframe => absurd hframe List.not_mem_nil⟩
  | cons operation operations ih =>
      have hstep := h.step operation (hvalid operation List.mem_cons_self)
      obtain ⟨hbytes, hframes⟩ := ih hstep fun other hother =>
        hvalid other (List.mem_cons_of_mem operation hother)
      unfold sent emitted at *
      cases operation with
      | process =>
          have hcall : chip.process.Sound := hstep.sound
          constructor
          · rw [collected, collected, hbytes]
            show chip.process.bytes ++ _ = encodeAll (chip.process.frames ++ _)
            rw [hcall.bytes_eq]
            exact List.flatMap_append.symm
          · intro frame hframe
            rcases List.mem_append.1 hframe with hframe | hframe
            · exact hcall.readout.frames frame hframe
            · exact hframes frame hframe
      | _ => exact ⟨hbytes, hframes⟩

/-- **The bytes of a run decode to its frames.** -/
theorem Reachable.decoded_sent (h : Reachable chip) {operations : List Operation}
    (hvalid : ∀ operation ∈ operations, operation.Valid) :
    (Channel.ofBytes (α := Frame) (chip.sent operations)).items.toList =
      chip.emitted operations := by
  obtain ⟨hbytes, hframes⟩ := h.sent_eq hvalid
  rw [hbytes]
  exact (Channel.decoded_encodeAll fun frame hframe =>
    Frame.readsBack (hframes frame hframe).1 (hframes frame hframe).2).1

/-- What a host reads in the bytes of some calls, when nothing is executed that uses a slot: all
requests are answered, if there are as many intervals as pairs of requests. -/
theorem Reachable.decoded_answers (h : Reachable chip) (hquiet : chip.Quiet)
    (hmode : chip.readout.mode.sendsService = true) {pairs : Nat}
    (hpairs : chip.asked.length ≤ 2 * pairs) :
    RegisterSlot.answers (Frame.reported (Channel.ofBytes (α := Frame)
        (chip.sent (Operation.calls (chip.readout.interval.toNat * pairs)))).items.toList) =
      chip.asked.map fun address => ⟨address, chip.finalLook address, false⟩ := by
  rw [h.decoded_sent (Operation.calls_valid _)]
  exact hquiet.answers_eq hmode h.interval_pos hpairs

/-! ## A write and a read -/

lemma writeRead_quiet (chip : Chip G) (chipId : UInt8) (address value : UInt16) :
    ({ chip with queue := writeRead chipId address value } : Chip G).Quiet := by
  intro demand hdemand
  obtain rfl := List.mem_singleton.1 hdemand
  rfl

/-- The value that was written is shown, unless the read converts with the ADC. -/
lemma writeRead_finalLook (chipId : UInt8) (hholds : chip.detector.Holds address)
    (hadc : address.toNat ≠ 136) (value : UInt16) :
    ({ chip with queue := writeRead chipId address value } : Chip G).finalLook address = value := by
  have hconvert : ∀ detector : Detector G, detector.convert address = detector := by
    intro detector
    unfold Detector.convert
    exact if_neg hadc
  show ((chip.detector.write _).convert address).read address = value
  rw [hconvert]
  exact Detector.read_write chipId hholds value

/-- **A written register is read back over the wire.**  The queue is empty, service frames are sent,
and the chip accepts the ID.  Calls that are enough for the requests that waited and one more show
the answers to these, and behind them the address with the value written. -/
theorem written_register_is_reported (hreachable : Reachable chip) (hqueue : chip.queue = [])
    (hmode : chip.readout.mode ≠ .dataOnly) (hid : chipId.toNat < 16)
    (haccepted : broadcastId ≤ chipId ∨ chipId = chip.id)
    (hholds : chip.detector.Holds address) (hadc : address.toNat ≠ 136) (value : UInt16) :
    let waiting := chip.readout.pending.length
    let count := chip.readout.interval.toNat * (waiting / 2 + 1)
    let bytes := Command.encode (.write ⟨chipId, address, .single value⟩) ++
      Command.encode (.read ⟨chipId, address⟩)
    let sent := (chip.receive bytes).2.sent (Operation.calls count)
    let answers := RegisterSlot.answers
      (Frame.reported (Channel.ofBytes (α := Frame) sent).items.toList)
    waiting + 1 ≤ answers.length ∧ answers[waiting]? = some ⟨address, value, false⟩ := by
  intro waiting count bytes sent answers
  have hsends : chip.readout.mode.sendsService = true := by
    cases hm : chip.readout.mode with
    | dataOnly => exact absurd hm hmode
    | all => rfl
    | serviceOnly => rfl
  have hbytes : bytes = encodeAll (writeRead chipId address value) := by
    show _ = Command.encode _ ++ (Command.encode _ ++ [])
    rw [List.append_nil]
  have hwidth : address.toNat < 512 := Nat.lt_trans hholds.address_lt (by decide)
  have hreceive := receive_writeRead hqueue hid haccepted hwidth value
  rw [← hbytes] at hreceive
  have hquiet := writeRead_quiet chip chipId address value
  have hlook := writeRead_finalLook chipId hholds hadc value
  rw [← hreceive] at hquiet hlook
  -- The request is the last of those that wait.
  have hasked : (chip.receive bytes).2.asked = chip.readout.pending ++ [address] := by
    rw [hreceive]
    rfl
  have hpairs : (chip.receive bytes).2.asked.length ≤ 2 * (waiting / 2 + 1) := by
    rw [hasked, List.length_append, List.length_singleton]
    show waiting + 1 ≤ 2 * (waiting / 2 + 1)
    omega
  have hanswers : answers = (chip.readout.pending ++ [address]).map fun address =>
      ⟨address, (chip.receive bytes).2.finalLook address, false⟩ := by
    rw [← hasked]
    exact (hreachable.step (.receive bytes) trivial).decoded_answers hquiet hsends hpairs
  rw [hanswers]
  constructor
  · rw [List.length_map, List.length_append, List.length_singleton]
  · rw [List.getElem?_map, List.getElem?_concat_length, Option.map_some, hlook]

/-- The first pixel pair is written under a broadcast ID while one request waits and the interval
was lowered below the count of slots. -/
theorem written_pair_is_reported :
    let chip : Chip ChaCha := (powerOn 0 .all (ChaCha.ofSeed 0)).run
      [.setInterval 4, .push (.read ⟨8, 5⟩), .process, .process, .setInterval 1]
    let bytes := Command.encode (.write ⟨8, 0, .single 0x1234⟩) ++ Command.encode (.read ⟨8, 0⟩)
    let sent := (chip.receive bytes).2.sent [.process]
    let answers := RegisterSlot.answers
      (Frame.reported (Channel.ofBytes (α := Frame) sent).items.toList)
    chip.queue = [] ∧ chip.readout.pending = [5] ∧ chip.readout.sinceService = 2 ∧
      chip.detector.Holds 0 ∧ answers[1]? = some ⟨0, 0x1234, false⟩ := by
  intro chip bytes sent answers
  have hreachable : Reachable chip := by
    refine (Reachable.powerOn 0 .all (ChaCha.ofSeed 0)).run ?_
    simp only [List.forall_mem_cons]
    exact ⟨trivial, .read 8 5 rfl, trivial, trivial, trivial, by simp⟩
  have hqueue : chip.queue = [] := by decide +kernel
  have hmode : chip.readout.mode ≠ .dataOnly := by decide +kernel
  have hholds : chip.detector.Holds 0 := ⟨by decide, by decide +kernel⟩
  have hid : (8 : UInt8).toNat < 16 := by decide
  have haccepted : broadcastId ≤ 8 ∨ 8 = chip.id := .inl (by decide)
  have hadc : (0 : UInt16).toNat ≠ 136 := by decide
  have hreport := written_register_is_reported hreachable hqueue hmode hid haccepted hholds hadc
    0x1234
  have hpending : chip.readout.pending = [5] := by decide +kernel
  have hsince : chip.readout.sinceService = 2 := by decide +kernel
  have hinterval : chip.readout.interval = 1 := by decide +kernel
  rw [hpending, hinterval] at hreport
  exact ⟨hqueue, hpending, hsince, hholds, hreport.2⟩

end Chip
end PixelChip

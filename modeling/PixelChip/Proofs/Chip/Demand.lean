import PixelChip.Proofs.Chip.Run

/-!
# What a call of `process` asks of the readout

Commands configure the detector and the detector never looks at the readout.  So the execution of
a queue falls apart into two folds: the detector runs through the commands, and the readout meets
the demands that these make, each with the registers as they are at that moment.  `process_eq`
states this for a whole call, with the slot that a call without data frames uses as one more demand.

The demands of a call depend on the queue and the detector only.  Neither the output mode nor the
interval nor what waits to be reported has an influence on them.
-/

namespace PixelChip

@[simp] lemma Channel.toList_push {α : Type} (channel : Channel α) (item : α) :
    (channel.push item).items.toList = channel.items.toList ++ [item] :=
  Array.toList_push

namespace Readout

/-- One thing that is asked of a readout.  `look` gives the value at an address at that moment. -/
inductive Demand where
  /-- Report an address. -/
  | request (address : UInt16)
  /-- Send a data frame in a slot of its own. -/
  | send (look : UInt16 → UInt16) (frame : DataFrame)
  /-- Use a slot without a data frame. -/
  | slot (look : UInt16 → UInt16)

namespace Demand

/-- The readout after a demand. -/
def meet (readout : Readout) : Demand → Readout
  | request address => readout.request address
  | send look frame => readout.emit look frame
  | slot look => readout.useSlot look

def usesSlot : Demand → Bool
  | request _ => false
  | send .. | slot _ => true

/-- How values are looked up where the demand uses a slot. -/
def look? : Demand → Option (UInt16 → UInt16)
  | request _ => none
  | send look _ | slot look => some look

/-- The address that is to be reported. -/
def address? : Demand → Option UInt16
  | request address => some address
  | send .. | slot _ => none

/-- The data frame that is to be sent. -/
def data? : Demand → Option DataFrame
  | send _ frame => some frame
  | request _ | slot _ => none

end Demand

/-- The readout after some demands, in order. -/
def meetAll (readout : Readout) (demands : List Demand) : Readout :=
  demands.foldl Demand.meet readout

/-- The readout without the frames that it made so far. -/
def fresh (readout : Readout) : Readout :=
  { readout with output := .empty }

@[simp] lemma meetAll_nil (readout : Readout) : readout.meetAll [] = readout := rfl

@[simp] lemma meetAll_cons (readout : Readout) (demand : Demand) (demands : List Demand) :
    readout.meetAll (demand :: demands) = (demand.meet readout).meetAll demands := rfl

lemma meetAll_append (readout : Readout) (demands demands' : List Demand) :
    readout.meetAll (demands ++ demands') = (readout.meetAll demands).meetAll demands' :=
  List.foldl_append

/-! ## Slots and service frames -/

@[simp] lemma nextSlot_mode (look : UInt16 → UInt16) (readout : Readout) :
    (readout.nextSlot look).2.mode = readout.mode := by
  unfold nextSlot
  split <;> rfl

@[simp] lemma nextSlot_interval (look : UInt16 → UInt16) (readout : Readout) :
    (readout.nextSlot look).2.interval = readout.interval := by
  unfold nextSlot
  split <;> rfl

@[simp] lemma serviceFrame_mode (look : UInt16 → UInt16) (readout : Readout) :
    (readout.serviceFrame look).2.mode = readout.mode :=
  (nextSlot_mode look _).trans (nextSlot_mode look readout)

@[simp] lemma serviceFrame_interval (look : UInt16 → UInt16) (readout : Readout) :
    (readout.serviceFrame look).2.interval = readout.interval :=
  (nextSlot_interval look _).trans (nextSlot_interval look readout)

/-- The address of a request that waits is reported first. -/
lemma nextSlot_of_cons (look : UInt16 → UInt16) {readout : Readout} {address : UInt16}
    {pending : List UInt16} (h : readout.pending = address :: pending) :
    readout.nextSlot look =
      ({ address, value := look address, autoRead := false }, { readout with pending }) := by
  rw [nextSlot, h]

/-- Where no request waits, the address under the cursor is reported. -/
lemma nextSlot_of_nil (look : UInt16 → UInt16) {readout : Readout} (h : readout.pending = []) :
    readout.nextSlot look =
      ({ address := .ofNat readout.cursor
         value := look (.ofNat readout.cursor)
         autoRead := true },
        { readout with
          cursor := if readout.cursor + 1 < cursorEnd then readout.cursor + 1 else 0 }) := by
  cases readout
  subst h
  rfl

/-- Whether the next slot makes a service frame due. -/
def ServiceDue (readout : Readout) : Prop :=
  readout.interval.toNat ≤ readout.sinceService + 1

lemma useSlot_of_not_due (look : UInt16 → UInt16) {readout : Readout}
    (hdue : ¬ readout.ServiceDue) :
    readout.useSlot look =
      { readout with slots := readout.slots + 1, sinceService := readout.sinceService + 1 } := by
  rw [useSlot, if_pos (Nat.lt_of_not_le hdue)]

/-- A service frame that the mode suppresses takes nothing from what waits. -/
lemma useSlot_of_suppressed (look : UInt16 → UInt16) {readout : Readout}
    (hdue : readout.ServiceDue) (hmode : readout.mode.sendsService = false) :
    readout.useSlot look = { readout with slots := readout.slots + 1, sinceService := 0 } := by
  rw [useSlot, if_neg (Nat.not_lt_of_le hdue), if_neg (by simp [hmode])]

lemma useSlot_of_sent (look : UInt16 → UInt16) {readout : Readout}
    (hdue : readout.ServiceDue) (hmode : readout.mode.sendsService = true) :
    readout.useSlot look =
      { (readout.serviceFrame look).2 with
        slots := readout.slots + 1
        sinceService := 0
        output := readout.output.push (.register (readout.serviceFrame look).1) } := by
  rw [useSlot, if_neg (Nat.not_lt_of_le hdue), if_pos hmode]
  -- The slot counts go through the making of a service frame unread.
  cases readout with
  | mk pending cursor interval sinceService slots mode output =>
      rcases pending with _ | ⟨address, _ | ⟨address', pending⟩⟩ <;> rfl

/-- **What using a slot does.**  The count goes on, or a service frame is due and either sent or,
where the mode suppresses it, passed over. -/
lemma useSlot_cases (look : UInt16 → UInt16) (readout : Readout) :
    (¬ readout.ServiceDue ∧ readout.useSlot look =
        { readout with slots := readout.slots + 1, sinceService := readout.sinceService + 1 }) ∨
      (readout.ServiceDue ∧ readout.mode.sendsService = false ∧ readout.useSlot look =
        { readout with slots := readout.slots + 1, sinceService := 0 }) ∨
      (readout.ServiceDue ∧ readout.mode.sendsService = true ∧ readout.useSlot look =
        { (readout.serviceFrame look).2 with
          slots := readout.slots + 1
          sinceService := 0
          output := readout.output.push (.register (readout.serviceFrame look).1) }) := by
  by_cases hdue : readout.ServiceDue
  · cases hmode : readout.mode.sendsService with
    | false => exact .inr (.inl ⟨hdue, rfl, useSlot_of_suppressed look hdue hmode⟩)
    | true => exact .inr (.inr ⟨hdue, rfl, useSlot_of_sent look hdue hmode⟩)
  · exact .inl ⟨hdue, useSlot_of_not_due look hdue⟩

@[simp] lemma output_push (readout : Readout) (frame : Frame) :
    (readout.push frame).output.items.toList = readout.output.items.toList ++ [frame] :=
  Channel.toList_push ..

/-- What has to be kept through slots, frames and requests is kept through all demands. -/
lemma meetAll_induction {P : Readout → Prop} {demands : List Demand} {readout : Readout}
    (h : P readout)
    (hstep : ∀ demand ∈ demands, ∀ readout : Readout, P readout → P (demand.meet readout)) :
    P (readout.meetAll demands) := by
  induction demands generalizing readout with
  | nil => exact h
  | cons demand demands ih =>
      apply ih (hstep demand List.mem_cons_self readout h)
      intro other hother
      exact hstep other (List.mem_cons_of_mem demand hother)

lemma useSlot_settings (look : UInt16 → UInt16) (readout : Readout) :
    (readout.useSlot look).mode = readout.mode ∧
      (readout.useSlot look).interval = readout.interval := by
  obtain ⟨-, h⟩ | ⟨-, -, h⟩ | ⟨-, -, h⟩ := readout.useSlot_cases look
  · rw [h]
    exact ⟨rfl, rfl⟩
  · rw [h]
    exact ⟨rfl, rfl⟩
  · rw [h]
    exact ⟨serviceFrame_mode look readout, serviceFrame_interval look readout⟩

lemma meet_settings (readout : Readout) (demand : Demand) :
    (demand.meet readout).mode = readout.mode ∧
      (demand.meet readout).interval = readout.interval := by
  cases demand with
  | request address => exact ⟨rfl, rfl⟩
  | slot look => exact useSlot_settings look readout
  | send look frame =>
      obtain ⟨hmode, hinterval⟩ := useSlot_settings look
        (if readout.mode.sendsData then readout.push (.data frame) else readout)
      constructor
      · refine hmode.trans ?_
        split <;> rfl
      · refine hinterval.trans ?_
        split <;> rfl

/-- Demands leave the mode and the interval as they are. -/
lemma meetAll_settings (readout : Readout) (demands : List Demand) :
    (readout.meetAll demands).mode = readout.mode ∧
      (readout.meetAll demands).interval = readout.interval := by
  apply meetAll_induction (P := fun after =>
    after.mode = readout.mode ∧ after.interval = readout.interval) ⟨rfl, rfl⟩
  intro demand _ after h
  obtain ⟨hmode, hinterval⟩ := meet_settings after demand
  exact ⟨hmode.trans h.1, hinterval.trans h.2⟩

/-! ## Counting slots -/

lemma useSlot_slots (look : UInt16 → UInt16) (readout : Readout) :
    (readout.useSlot look).slots = readout.slots + 1 := by
  obtain ⟨-, h⟩ | ⟨-, -, h⟩ | ⟨-, -, h⟩ := readout.useSlot_cases look <;> rw [h]

lemma meet_slots (readout : Readout) (demand : Demand) :
    (demand.meet readout).slots = readout.slots + if demand.usesSlot then 1 else 0 := by
  cases demand with
  | request address => rfl
  | slot look => exact useSlot_slots look readout
  | send look frame =>
      refine (useSlot_slots look _).trans ?_
      split <;> rfl

/-- A slot is counted for every demand that uses one. -/
lemma meetAll_slots (readout : Readout) (demands : List Demand) :
    (readout.meetAll demands).slots = readout.slots + demands.countP Demand.usesSlot := by
  induction demands generalizing readout with
  | nil => rfl
  | cons demand demands ih =>
      rw [meetAll_cons, ih, meet_slots, List.countP_cons, Nat.add_assoc,
        Nat.add_comm (List.countP _ _)]

end Readout

/-! ## Commands -/

namespace Detector

variable {G : Type} [Generator G]

/-- The detector after a command. -/
def execute (detector : Detector G) : Command → Detector G
  | .read read => detector.convert read.address
  | .write write => detector.write write
  | .trigger trigger => (detector.trigger trigger).2
  | .ecr | .bcr | .noop | .sync | .pulse _ | .cal _ => detector

/-- What a command asks of the readout. -/
def demands (detector : Detector G) : Command → List Readout.Demand
  | .read read => [.request read.address]
  | .trigger trigger =>
    (detector.trigger trigger).1.map (.send (detector.trigger trigger).2.read)
  | .write _ | .ecr | .bcr | .noop | .sync | .pulse _ | .cal _ => []

/-- The detector after some commands, in order. -/
def executeAll (detector : Detector G) (commands : List Command) : Detector G :=
  commands.foldl execute detector

/-- What some commands ask of the readout, in order. -/
def demandsAll : Detector G → List Command → List Readout.Demand
  | _, [] => []
  | detector, command :: commands =>
    detector.demands command ++ (detector.execute command).demandsAll commands

/-- The detector with no register marked as written. -/
def drained (detector : Detector G) : Detector G :=
  { detector with registers := detector.registers.drain.2 }

end Detector

namespace Chip

variable {G : Type} [Generator G]

lemma execute_eq (detector : Detector G) (readout : Readout) (command : Command) :
    execute detector readout command =
      (detector.execute command, readout.meetAll (detector.demands command)) := by
  cases command with
  | trigger trigger =>
      show (_, List.foldl _ _ _) = (_, List.foldl _ _ (List.map _ _))
      rw [List.foldl_map]
      rfl
  | _ => rfl

/-- **Commands run through the detector, and the readout meets their demands.** -/
theorem executeAll_eq (commands : List Command) (detector : Detector G) (readout : Readout) :
    executeAll commands detector readout =
      (detector.executeAll commands, readout.meetAll (detector.demandsAll commands)) := by
  induction commands generalizing detector readout with
  | nil => rfl
  | cons command commands ih =>
      rw [executeAll, execute_eq]
      show executeAll commands _ _ = _
      rw [ih, Detector.demandsAll, Readout.meetAll_append]
      rfl

/-- What a call of `process` asks of the readout.  Where no command uses a slot, the call does. -/
def demands (chip : Chip G) : List Readout.Demand :=
  let asked := chip.detector.demandsAll chip.queue
  if asked.any Readout.Demand.usesSlot then asked
  else asked ++ [.slot (chip.detector.executeAll chip.queue).read]

/-- The slot of a call without data frames asks for nothing that commands ask for. -/
lemma filterMap_demands {α : Type} {f : Readout.Demand → Option α}
    (hslot : ∀ look, f (.slot look) = none) (chip : Chip G) :
    chip.demands.filterMap f = (chip.detector.demandsAll chip.queue).filterMap f := by
  rw [demands]
  split
  · rfl
  · rw [List.filterMap_append, List.filterMap_cons_none (hslot _)]
    exact List.append_nil _

/-- **A call of `process`**: the commands of the queue run through the detector, and the readout
meets their demands. -/
theorem process_eq (chip : Chip G) :
    chip.process =
      { chip with
        queue := []
        detector := (chip.detector.executeAll chip.queue).drained
        readout :=
          { chip.readout.fresh.meetAll chip.demands with
            output := (chip.readout.fresh.meetAll chip.demands).output.encode } } := by
  have hslots := chip.readout.fresh.meetAll_slots (chip.detector.demandsAll chip.queue)
  have hfresh : chip.readout.fresh.slots = chip.readout.slots := rfl
  rw [process, ← Readout.fresh, executeAll_eq, demands]
  cases hany : (chip.detector.demandsAll chip.queue).any Readout.Demand.usesSlot with
  | true =>
      have hpos : 0 < (chip.detector.demandsAll chip.queue).countP Readout.Demand.usesSlot :=
        List.countP_pos_iff.2 (List.any_eq_true.1 hany)
      simp only [if_true]
      rw [if_neg (by omega)]
      rfl
  | false =>
      have hzero : (chip.detector.demandsAll chip.queue).countP Readout.Demand.usesSlot = 0 := by
        rw [List.countP_eq_zero]
        intro demand hdemand
        simpa using List.any_eq_false.1 hany demand hdemand
      simp only [Bool.false_eq_true, if_false, Readout.meetAll_append]
      rw [if_pos (by omega)]
      rfl

/-- A call leads the detector through the queue. -/
lemma process_detector (chip : Chip G) :
    chip.process.detector = (chip.detector.executeAll chip.queue).drained := by
  rw [process_eq]

/-- The frames of a call. -/
lemma process_frames (chip : Chip G) :
    chip.process.frames = (chip.readout.fresh.meetAll chip.demands).output.items.toList := by
  rw [process_eq]
  rfl

end Chip
end PixelChip

import Mathlib.Data.List.Basic
import PixelChip.Proofs.Chip.Batches
import PixelChip.Random.Draw

/-!
# Service frames at intervals

The slots of a chip are numbered from 1 on.  While the interval stays what it was at the first of
them, a service frame is due in exactly those slots whose number is a multiple of the interval: in
the middle of a trigger, between calls and through calls without data frames, and whatever the mode
lets out.

`Readout.InStep` is the invariant behind this.  It says that the count since the last service frame
is the number of all slots modulo the interval, so that a service frame is due where the next number
is a multiple (`InStep.serviceDue_iff`).  Demands keep it, and so do all operations that leave the
interval alone.
-/

namespace PixelChip

/-! ## Counting round an interval -/

/-- Counting goes round: the remainder grows by one or starts anew. -/
lemma succ_mod {n : Nat} (hn : 0 < n) (k : Nat) :
    (k + 1) % n = if k % n + 1 < n then k % n + 1 else 0 := by
  have hlt : k % n < n := Nat.mod_lt k hn
  have hround : (k + 1) % n = (k % n + 1) % n := (Nat.mod_add_mod k n 1).symm
  rw [hround]
  split
  · rename_i hbelow
    exact Nat.mod_eq_of_lt hbelow
  · have hfull : k % n + 1 = n := by omega
    rw [hfull, Nat.mod_self]

/-- Of the numbers up to a total, as many are multiples as the quotient says. -/
lemma length_filter_dvd (interval total : Nat) :
    ((List.range' 1 total).filter (interval ∣ ·)).length = total / interval := by
  induction total with
  | zero => simp
  | succ total ih =>
      rw [List.range'_concat, List.filter_append, List.length_append, ih, Nat.succ_div,
        Nat.add_comm 1, Nat.one_mul, List.filter_cons]
      by_cases hdvd : interval ∣ total + 1
      · simp [hdvd]
      · simp [hdvd]

/-! ## Frames of numbered slots -/

/-- The frames of consecutive slots in which nothing is suppressed.  `number` is the number of the
first slot.  Each slot shows the data frame that it carries, if any, and directly behind it a
register frame if the number of the slot is a multiple of the interval. -/
inductive SlotFrames (interval : Nat) : (number : Nat) → List (Option DataFrame) → List Frame → Prop
  | nil (number : Nat) : SlotFrames interval number [] []
  | plain {number : Nat} {slots : List (Option DataFrame)} {frames : List Frame}
      (carried : Option DataFrame) (hnumber : ¬ interval ∣ number)
      (hrest : SlotFrames interval (number + 1) slots frames) :
      SlotFrames interval number (carried :: slots) (carried.toList.map .data ++ frames)
  | service {number : Nat} {slots : List (Option DataFrame)} {frames : List Frame}
      (carried : Option DataFrame) (report : RegisterFrame) (hnumber : interval ∣ number)
      (hrest : SlotFrames interval (number + 1) slots frames) :
      SlotFrames interval number (carried :: slots)
        (carried.toList.map .data ++ .register report :: frames)

/-- A slot that carries nothing shows at most a register frame. -/
lemma SlotFrames.of_empty_slot {interval number : Nat} {frames : List Frame}
    (h : SlotFrames interval number [none] frames) :
    ∃ report, frames = if interval ∣ number then [.register report] else [] := by
  cases h with
  | plain _ hnumber hrest =>
      cases hrest
      exact ⟨⟨0, ⟨0, 0, false⟩, ⟨0, 0, false⟩, false⟩, (if_neg hnumber).symm⟩
  | service _ report hnumber hrest =>
      cases hrest
      exact ⟨report, (if_pos hnumber).symm⟩

namespace Readout

/-- What the slot of a demand carries, a data frame or nothing, if the demand uses a slot. -/
def Demand.carried? : Demand → Option (Option DataFrame)
  | request _ => none
  | send _ frame => some (some frame)
  | slot _ => some none

lemma Demand.usesSlot_eq (demand : Demand) : demand.usesSlot = demand.carried?.isSome := by
  cases demand <;> rfl

instance (readout : Readout) : Decidable readout.ServiceDue :=
  inferInstanceAs (Decidable (_ ≤ _))

/-- The numbers of the slots in which demands find a service frame due, sent or not. -/
def servicePoints (readout : Readout) : List Demand → List Nat
  | [] => []
  | demand :: demands =>
    (if demand.usesSlot ∧ readout.ServiceDue then [readout.slots + 1] else []) ++
      (demand.meet readout).servicePoints demands

/-! ## Counting in step -/

/-- The count since the last service frame follows from the number of all slots. -/
structure InStep (interval : UInt32) (readout : Readout) : Prop where
  interval_eq : readout.interval = interval
  sinceService_eq : readout.sinceService = readout.slots % interval.toNat

variable {interval : UInt32} {readout : Readout}

/-- **A service frame is due where the next slot has a multiple of the interval as its number.** -/
lemma InStep.serviceDue_iff (h : InStep interval readout) (hpos : 0 < interval.toNat) :
    readout.ServiceDue ↔ interval.toNat ∣ readout.slots + 1 := by
  rw [ServiceDue, h.interval_eq, h.sinceService_eq, Nat.dvd_iff_mod_eq_zero, succ_mod hpos]
  split <;> omega

/-- Using a slot keeps the count in step. -/
lemma InStep.useSlot (h : InStep interval readout) (hpos : 0 < interval.toNat)
    (look : UInt16 → UInt16) : InStep interval (readout.useSlot look) := by
  have hdue := h.serviceDue_iff hpos
  have hzero : readout.ServiceDue → 0 = (readout.slots + 1) % interval.toNat := fun h =>
    (Nat.mod_eq_zero_of_dvd (hdue.1 h)).symm
  obtain ⟨hnot, hslot⟩ | ⟨hnow, -, hslot⟩ | ⟨hnow, -, hslot⟩ := readout.useSlot_cases look
  · have hbelow : readout.slots % interval.toNat + 1 < interval.toNat := by
      rw [ServiceDue, h.interval_eq, h.sinceService_eq] at hnot
      omega
    rw [hslot]
    refine ⟨h.interval_eq, ?_⟩
    show readout.sinceService + 1 = (readout.slots + 1) % interval.toNat
    rw [succ_mod hpos, if_pos hbelow, h.sinceService_eq]
  · rw [hslot]
    exact ⟨h.interval_eq, hzero hnow⟩
  · rw [hslot]
    exact ⟨(serviceFrame_interval look readout).trans h.interval_eq, hzero hnow⟩

/-- A frame that is put out does not touch the count. -/
lemma InStep.push (h : InStep interval readout) (frame : Frame) :
    InStep interval (readout.push frame) :=
  ⟨h.interval_eq, h.sinceService_eq⟩

/-- **Every demand keeps the count in step.** -/
lemma InStep.meet (h : InStep interval readout) (hpos : 0 < interval.toNat) (demand : Demand) :
    InStep interval (demand.meet readout) := by
  cases demand with
  | request address => exact ⟨h.interval_eq, h.sinceService_eq⟩
  | slot look => exact h.useSlot hpos look
  | send look frame =>
      show InStep interval (readout.emit look frame)
      unfold emit
      apply InStep.useSlot _ hpos
      split
      · exact h.push _
      · exact h

lemma InStep.meetAll (h : InStep interval readout) (hpos : 0 < interval.toNat)
    (demands : List Demand) : InStep interval (readout.meetAll demands) :=
  meetAll_induction h fun demand _ _ hstep => hstep.meet hpos demand

/-- **Demands find a service frame due in the slots with multiples as their numbers.** -/
lemma InStep.servicePoints_eq (h : InStep interval readout) (hpos : 0 < interval.toNat)
    (demands : List Demand) :
    readout.servicePoints demands =
      (List.range' (readout.slots + 1) (demands.countP Demand.usesSlot)).filter
        (interval.toNat ∣ ·) := by
  induction demands generalizing readout with
  | nil => rfl
  | cons demand demands ih =>
      rw [servicePoints, ih (h.meet hpos demand), meet_slots, List.countP_cons]
      cases demand.usesSlot with
      | false => simp
      | true =>
          simp only [if_true, true_and, h.serviceDue_iff hpos, List.range'_succ, List.filter_cons,
            decide_eq_true_eq]
          split <;> rfl

/-! ## Frames in step -/

/-- What a slot shows in a mode that lets everything out. -/
lemma InStep.slotFrames_cons (h : InStep interval readout) (hpos : 0 < interval.toNat)
    (hmode : readout.mode = .all) (look : UInt16 → UInt16) (carried : Option DataFrame)
    {slots : List (Option DataFrame)} {frames : List Frame}
    (hrest : SlotFrames interval.toNat (readout.slots + 2) slots frames) :
    ∃ behind, SlotFrames interval.toNat (readout.slots + 1) (carried :: slots)
        (carried.toList.map .data ++ behind) ∧
      (readout.useSlot look).output.items.toList ++ frames =
        readout.output.items.toList ++ behind := by
  obtain ⟨hnot, hslot⟩ | ⟨-, hlost, -⟩ | ⟨hnow, -, hslot⟩ := readout.useSlot_cases look
  · rw [h.serviceDue_iff hpos] at hnot
    exact ⟨frames, .plain carried hnot hrest, by rw [hslot]⟩
  · rw [hmode] at hlost
    exact absurd hlost.symm Bool.false_ne_true
  · rw [h.serviceDue_iff hpos] at hnow
    refine ⟨_, .service carried (readout.serviceFrame look).1 hnow hrest, ?_⟩
    rw [hslot, Channel.toList_push, List.append_assoc]
    rfl

/-- **Demands show the frames of their slots.** -/
lemma InStep.slotFrames_meetAll (h : InStep interval readout) (hpos : 0 < interval.toNat)
    (hmode : readout.mode = .all) (demands : List Demand) :
    ∃ frames, SlotFrames interval.toNat (readout.slots + 1)
        (demands.filterMap Demand.carried?) frames ∧
      (readout.meetAll demands).output.items.toList =
        readout.output.items.toList ++ frames := by
  induction demands generalizing readout with
  | nil => exact ⟨[], .nil _, (List.append_nil _).symm⟩
  | cons demand demands ih =>
      have hsame : (demand.meet readout).mode = .all := (meet_settings readout demand).1.trans hmode
      obtain ⟨frames, hframes, houtput⟩ := ih (h.meet hpos demand) hsame
      rw [meet_slots] at hframes
      rw [meetAll_cons, houtput]
      cases demand with
      | request address => exact ⟨frames, hframes, rfl⟩
      | slot look => exact h.slotFrames_cons hpos hmode look none hframes
      | send look frame =>
          have hsends : readout.emit look frame = (readout.push (.data frame)).useSlot look := by
            rw [emit, hmode]
            rfl
          obtain ⟨behind, hbehind, hshown⟩ :=
            (h.push (.data frame)).slotFrames_cons hpos hmode look (some frame) hframes
          refine ⟨_, hbehind, ?_⟩
          show (readout.emit look frame).output.items.toList ++ frames = _
          rw [hsends, hshown, output_push, List.append_assoc]
          rfl

end Readout

/-! ## Calls -/

namespace Chip

variable {G : Type} [Generator G] {chip : Chip G} {interval : UInt32}

/-- What the slots of a call of `process` carry: one each of the data frames that its triggers
make, sent or not, or nothing in a single slot if there are none. -/
def slotsOfCall (chip : Chip G) : List (Option DataFrame) :=
  let made := chip.detector.dataFrames chip.queue
  if made = [] then [none] else made.map some

/-- The numbers of the slots in which a call of `process` finds a service frame due. -/
def servicePointsOfCall (chip : Chip G) : List Nat :=
  chip.readout.fresh.servicePoints chip.demands

/-- No command asks for a slot without a data frame. -/
lemma carried?_of_mem_demandsAll {detector : Detector G} {commands : List Command}
    {demand : Readout.Demand} (h : demand ∈ detector.demandsAll commands) :
    demand.carried? = demand.data?.map some := by
  induction commands generalizing detector with
  | nil => exact absurd h List.not_mem_nil
  | cons command commands ih =>
      rcases List.mem_append.1 h with h | h
      · cases command with
        | read read =>
            obtain rfl := List.mem_singleton.1 h
            rfl
        | trigger trigger =>
            obtain ⟨frame, -, rfl⟩ := List.mem_map.1 h
            rfl
        | _ => exact absurd h List.not_mem_nil
      · exact ih h

lemma filterMap_carried?_demandsAll (detector : Detector G) (commands : List Command) :
    (detector.demandsAll commands).filterMap Readout.Demand.carried? =
      (detector.dataFrames commands).map some := by
  rw [Detector.dataFrames, List.map_filterMap]
  exact List.filterMap_congr fun demand hdemand => carried?_of_mem_demandsAll hdemand

/-- The demands of a call use the slots of the call. -/
lemma filterMap_carried?_demands (chip : Chip G) :
    chip.demands.filterMap Readout.Demand.carried? = chip.slotsOfCall := by
  have hasked := filterMap_carried?_demandsAll chip.detector chip.queue
  have hany : (chip.detector.demandsAll chip.queue).any Readout.Demand.usesSlot = true ↔
      chip.detector.dataFrames chip.queue ≠ [] := by
    rw [Ne, ← List.map_eq_nil_iff (f := some), ← hasked]
    simp [Readout.Demand.usesSlot_eq, Option.isSome_iff_ne_none]
  unfold demands slotsOfCall
  simp only
  by_cases hmade : chip.detector.dataFrames chip.queue = []
  · rw [if_neg (fun h => hany.1 h hmade), if_pos hmade, List.filterMap_append, hasked, hmade]
    rfl
  · rw [if_pos (hany.2 hmade), if_neg hmade, hasked]

/-- A call counts its slots. -/
lemma countP_usesSlot_demands (chip : Chip G) :
    chip.demands.countP Readout.Demand.usesSlot = chip.slotsOfCall.length := by
  rw [← filterMap_carried?_demands, List.length_filterMap_eq_countP]
  exact List.countP_congr fun demand _ => by rw [demand.usesSlot_eq]

/-- The frames of a call in a mode that lets everything out are those of its slots. -/
lemma process_slotFrames (h : Readout.InStep interval chip.readout) (hpos : 0 < interval.toNat)
    (hmode : chip.readout.mode = .all) :
    SlotFrames interval.toNat (chip.readout.slots + 1) chip.slotsOfCall chip.process.frames := by
  have hfresh : Readout.InStep interval chip.readout.fresh := ⟨h.interval_eq, h.sinceService_eq⟩
  obtain ⟨frames, hframes, houtput⟩ := hfresh.slotFrames_meetAll hpos hmode chip.demands
  rw [filterMap_carried?_demands] at hframes
  rw [process_frames, houtput]
  exact hframes

/-! ## Runs -/

/-- Whether the operation leaves the interval alone, if it is the one given. -/
def Operation.keepsInterval (interval : UInt32) : Operation → Bool
  | setInterval other => max other 1 = interval
  | _ => true

/-- Whether the operation is none that uses a slot. -/
def Operation.usesNoSlot : Operation → Bool
  | process => false
  | _ => true

/-- The numbers of the slots in which a run finds a service frame due. -/
def servicePoints (chip : Chip G) (operations : List Operation) : List Nat :=
  chip.collected servicePointsOfCall operations

/-- **One operation** keeps the count in step.  It uses the slots that it shows, and finds service
frames due in those with multiples as their numbers. -/
lemma Operation.apply_inStep (h : Readout.InStep interval chip.readout) (hpos : 0 < interval.toNat)
    {operation : Operation} (hkeeps : operation.keepsInterval interval = true) :
    Readout.InStep interval (operation.apply chip).readout ∧
      (operation.apply chip).readout.slots =
        chip.readout.slots + (operation.shown slotsOfCall chip).length ∧
      operation.shown servicePointsOfCall chip =
        (List.range' (chip.readout.slots + 1) (operation.shown slotsOfCall chip).length).filter
          (interval.toNat ∣ ·) := by
  cases operation with
  | process =>
      have hfresh : Readout.InStep interval chip.readout.fresh := ⟨h.interval_eq, h.sinceService_eq⟩
      have hcall := hfresh.meetAll hpos chip.demands
      have hslots := chip.readout.fresh.meetAll_slots chip.demands
      have hpoints := hfresh.servicePoints_eq hpos chip.demands
      rw [countP_usesSlot_demands] at hslots hpoints
      refine ⟨?_, ?_, hpoints⟩
      · show Readout.InStep interval chip.process.readout
        rw [process_eq]
        exact ⟨hcall.interval_eq, hcall.sinceService_eq⟩
      · show chip.process.readout.slots = _
        rw [process_eq]
        exact hslots
  | push command =>
      show Readout.InStep interval (chip.push command).2.readout ∧
        (chip.push command).2.readout.slots = _ ∧ _
      rw [push_snd]
      exact ⟨h, rfl, rfl⟩
  | setInterval other =>
      exact ⟨⟨of_decide_eq_true hkeeps, h.sinceService_eq⟩, rfl, rfl⟩
  | _ => exact ⟨⟨h.interval_eq, h.sinceService_eq⟩, rfl, rfl⟩

/-- **Along every run** that leaves the interval alone, the count stays in step. -/
theorem run_inStep (h : Readout.InStep interval chip.readout) (hpos : 0 < interval.toNat)
    {operations : List Operation}
    (hkeeps : ∀ operation ∈ operations, operation.keepsInterval interval = true) :
    Readout.InStep interval (chip.run operations).readout ∧
      (chip.run operations).readout.slots =
        chip.readout.slots + (chip.collected slotsOfCall operations).length ∧
      chip.servicePoints operations =
        (List.range' (chip.readout.slots + 1) (chip.collected slotsOfCall operations).length).filter
          (interval.toNat ∣ ·) := by
  induction operations generalizing chip with
  | nil => exact ⟨h, rfl, rfl⟩
  | cons operation operations ih =>
      obtain ⟨hstep, hslots, hpoints⟩ :=
        Operation.apply_inStep h hpos (hkeeps operation List.mem_cons_self)
      obtain ⟨hrun, hall, hrest⟩ := ih hstep fun other hother =>
        hkeeps other (List.mem_cons_of_mem operation hother)
      unfold servicePoints at hrest ⊢
      rw [hslots] at hall hrest
      rw [run_cons, collected, List.length_append, ← Nat.add_assoc]
      refine ⟨hrun, hall, ?_⟩
      rw [collected, hpoints, hrest, ← List.filter_append, Nat.add_right_comm,
        List.range'_append_1]

/-! ## Before the first slot -/

/-- Without a call of `process` no slot is used. -/
lemma run_slots {operations : List Operation}
    (h : ∀ operation ∈ operations, operation.usesNoSlot = true) :
    (chip.run operations).readout.slots = chip.readout.slots ∧
      (chip.run operations).readout.sinceService = chip.readout.sinceService := by
  induction operations generalizing chip with
  | nil => exact ⟨rfl, rfl⟩
  | cons operation operations ih =>
      have hfirst := h operation List.mem_cons_self
      obtain ⟨hslots, hsince⟩ := @ih (operation.apply chip) fun other hother =>
        h other (List.mem_cons_of_mem operation hother)
      rw [run_cons, hslots, hsince]
      cases operation with
      | process => exact absurd hfirst Bool.false_ne_true
      | push command =>
          show (chip.push command).2.readout.slots = _ ∧
            (chip.push command).2.readout.sinceService = _
          rw [push_snd]
          exact ⟨rfl, rfl⟩
      | _ => exact ⟨rfl, rfl⟩

/-- An interval of 0 is raised to 1, so that none is ever 0. -/
lemma Operation.apply_interval_pos (h : 0 < chip.readout.interval.toNat) (operation : Operation) :
    0 < (operation.apply chip).readout.interval.toNat := by
  cases operation with
  | process =>
      have hkept := (chip.readout.fresh.meetAll_settings chip.demands).2
      show 0 < chip.process.readout.interval.toNat
      rw [process_eq]
      show 0 < (chip.readout.fresh.meetAll chip.demands).interval.toNat
      rw [hkept]
      exact h
  | push command =>
      show 0 < (chip.push command).2.readout.interval.toNat
      rw [push_snd]
      exact h
  | setInterval interval =>
      show 0 < (if interval ≤ 1 then (1 : UInt32) else interval).toNat
      split
      · exact Nat.zero_lt_one
      · rename_i habove
        rw [UInt32.le_iff_toNat_le, Nat.not_le] at habove
        exact Nat.lt_trans Nat.zero_lt_one habove
  | _ => exact h

lemma run_interval_pos (h : 0 < chip.readout.interval.toNat) (operations : List Operation) :
    0 < (chip.run operations).readout.interval.toNat := by
  induction operations generalizing chip with
  | nil => exact h
  | cons operation operations ih => exact ih (operation.apply_interval_pos h)

/-- **Service frames come at exact intervals.**  After any setup without a call of `process`, take
any run that leaves the interval as it is then.  Its calls use one slot for each data frame, sent or
not, and one slot where there is none.  A service frame was due in the slots with multiples of the
interval as their numbers and in no others, so as often as the interval fits into the number of
slots, and the count since then is the remainder.  A call that comes next and suppresses nothing
shows its data frames in order, with a register frame directly behind each in such a slot, and if it
has no data frame, a register frame alone or nothing. -/
theorem service_frames_at_multiples (id : UInt8) (mode : OutputMode) (generator : G)
    {setup operations : List Operation}
    (hsetup : ∀ operation ∈ setup, operation.usesNoSlot = true)
    (hkeeps : ∀ operation ∈ operations, operation.keepsInterval
      ((powerOn id mode generator).run setup).readout.interval = true) :
    let start := (powerOn id mode generator).run setup
    let chip := start.run operations
    let interval := start.readout.interval.toNat
    let total := (start.collected slotsOfCall operations).length
    0 < interval ∧
      chip.readout.slots = total ∧
      chip.readout.sinceService = total % interval ∧
      start.servicePoints operations = (List.range' 1 total).filter (interval ∣ ·) ∧
      (start.servicePoints operations).length = total / interval ∧
      (chip.readout.mode = .all →
        SlotFrames interval (total + 1) chip.slotsOfCall chip.process.frames ∧
          (chip.detector.dataFrames chip.queue = [] →
            ∃ report, chip.process.frames =
              if interval ∣ total + 1 then [.register report] else [])) := by
  intro start chip interval total
  have hdefault : 0 < (powerOn id mode generator).readout.interval.toNat := Nat.zero_lt_succ 9
  have hpos : 0 < interval := run_interval_pos hdefault setup
  obtain ⟨hzero, hsince⟩ : start.readout.slots = 0 ∧ start.readout.sinceService = 0 :=
    run_slots hsetup
  have hstart : Readout.InStep start.readout.interval start.readout :=
    ⟨rfl, by rw [hzero, hsince, Nat.zero_mod]⟩
  obtain ⟨hrun, hslots, hpoints⟩ := run_inStep hstart hpos hkeeps
  rw [hzero, Nat.zero_add] at hslots hpoints
  have hcount : chip.readout.sinceService = total % interval := by
    rw [hrun.sinceService_eq, hslots]
  refine ⟨hpos, hslots, hcount, hpoints, ?_, fun hmode => ?_⟩
  · rw [hpoints]
    exact length_filter_dvd interval total
  · have hframes := process_slotFrames hrun hpos hmode
    rw [hslots] at hframes
    refine ⟨hframes, fun hnone => ?_⟩
    have hempty : chip.slotsOfCall = [none] := if_pos hnone
    rw [hempty] at hframes
    exact hframes.of_empty_slot

/-- Three triggers while only data frames are sent, and then two while everything is, with no core
column enabled.  The second and the fourth slot make a service frame due. -/
theorem service_frame_behind_fourth_slot :
    let setup : List Operation :=
      [.setInterval 2,
        .changeRegisters fun registers => { registers with values := .replicate 138 0 }]
    let trigger (tag : Fin 32) : Operation := .push (.trigger (Trigger.ofPattern 7 tag))
    let operations : List Operation :=
      [.setMode .dataOnly, trigger 1, trigger 2, trigger 3, .process, .setMode .all, trigger 4,
        trigger 5]
    let start : Chip ChaCha := (powerOn 0 .all (ChaCha.ofSeed 0)).run setup
    let chip := start.run operations
    (∀ operation ∈ setup, operation.usesNoSlot = true) ∧
      (∀ operation ∈ operations, operation.keepsInterval start.readout.interval = true) ∧
      start.servicePoints operations = [2] ∧
      chip.readout.sinceService = 1 ∧
      chip.slotsOfCall =
        [some (.synced (.header ⟨0, 4, 0⟩)), some (.synced (.header ⟨0, 5, 0⟩))] ∧
      SlotFrames 2 4 chip.slotsOfCall chip.process.frames ∧
      chip.process.frames =
        [.data (.synced (.header ⟨0, 4, 0⟩)),
          .register
            { status := 0, first := ⟨0, 0, true⟩, second := ⟨1, 0, true⟩, error := false },
          .data (.synced (.header ⟨0, 5, 0⟩))] := by
  intro setup trigger operations start chip
  have hsetup : ∀ operation ∈ setup, operation.usesNoSlot = true := by
    simp [setup, Operation.usesNoSlot]
  have hkeeps : ∀ operation ∈ operations,
      operation.keepsInterval start.readout.interval = true := by
    simp [operations, trigger, Operation.keepsInterval]
  have htotal : (start.collected slotsOfCall operations).length = 3 := by decide +kernel
  have hinterval : start.readout.interval.toNat = 2 := by decide +kernel
  obtain ⟨-, -, hsince, hpoints, -, hframes⟩ :=
    service_frames_at_multiples 0 .all (ChaCha.ofSeed 0) hsetup hkeeps
  rw [htotal, hinterval] at hsince hpoints hframes
  refine ⟨hsetup, hkeeps, hpoints, hsince, ?_, (hframes rfl).1, ?_⟩
  · decide +kernel
  · decide +kernel

end Chip
end PixelChip

import PixelChip.Proofs.Chip.Requests

/-!
# Calls without triggers

A call of `process` whose queue makes no data frame uses one slot.  Every `interval` slots a service
frame is due, and it takes two requests from those that wait.  `Quiet.waiting_le` bounds what waits
after any number of such calls.  The bound holds for every count of slots that earlier calls left,
also for one above an interval that was lowered since: such a count makes the next slot due, just as
the highest count below the interval does.
-/

namespace PixelChip
namespace Readout

lemma nextSlot_pending (look : UInt16 → UInt16) (readout : Readout) :
    (readout.nextSlot look).2.pending = readout.pending.tail := by
  cases h : readout.pending with
  | nil => rw [nextSlot_of_nil look h, h, List.tail_nil]
  | cons address pending => rw [nextSlot_of_cons look h, List.tail_cons]

lemma length_serviceFrame_pending (look : UInt16 → UInt16) (readout : Readout) :
    (readout.serviceFrame look).2.pending.length = readout.pending.length - 2 := by
  show ((readout.nextSlot look).2.nextSlot look).2.pending.length = _
  rw [nextSlot_pending, nextSlot_pending, List.length_tail, List.length_tail, Nat.sub_sub]

/-- Demands that use no slot only add their requests. -/
lemma meetAll_of_requests {demands : List Demand} (readout : Readout)
    (h : ∀ demand ∈ demands, demand.usesSlot = false) :
    readout.meetAll demands =
      { readout with pending := readout.pending ++ demands.filterMap Demand.address? } := by
  induction demands generalizing readout with
  | nil => simp
  | cons demand demands ih =>
      have hfirst := h demand List.mem_cons_self
      cases demand with
      | request address =>
          rw [meetAll_cons, ih _ fun other hother => h other (List.mem_cons_of_mem _ hother)]
          show ({ readout with pending := readout.pending ++ [address] ++ _ } : Readout) = _
          rw [List.append_assoc]
          rfl
      | send look frame => exact absurd hfirst.symm Bool.false_ne_true
      | slot look => exact absurd hfirst.symm Bool.false_ne_true

end Readout

namespace Chip

variable {G : Type} [Generator G] {chip : Chip G}

/-- No command of the queue uses a slot. -/
def Quiet (chip : Chip G) : Prop :=
  ∀ demand ∈ chip.detector.demandsAll chip.queue, demand.usesSlot = false

/-- The values that a quiet call reports are those after all commands of its queue. -/
def finalLook (chip : Chip G) : UInt16 → UInt16 :=
  (chip.detector.executeAll chip.queue).read

/-- The addresses that were asked for and are not reported yet, in order. -/
def asked (chip : Chip G) : List UInt16 :=
  chip.readout.pending ++ chip.queue.filterMap Command.requested?

/-! ## One call -/

lemma Quiet.demands_eq (h : chip.Quiet) :
    chip.demands = chip.detector.demandsAll chip.queue ++ [.slot chip.finalLook] := by
  have hnone : (chip.detector.demandsAll chip.queue).any Readout.Demand.usesSlot = false := by
    rw [List.any_eq_false]
    intro demand hdemand
    rw [h demand hdemand]
    exact Bool.false_ne_true
  rw [demands, hnone]
  rfl

/-- The queue of a chip that was just called is empty. -/
lemma process_queue (chip : Chip G) : chip.process.queue = [] := by
  rw [process_eq]

lemma process_quiet (chip : Chip G) : chip.process.Quiet := by
  unfold Quiet
  rw [process_queue]
  intro demand hdemand
  exact absurd hdemand List.not_mem_nil

lemma process_finalLook (chip : Chip G) : chip.process.finalLook = chip.finalLook := by
  rw [process_eq]
  rfl

lemma process_asked (chip : Chip G) : chip.process.asked = chip.process.readout.pending := by
  rw [asked, process_queue]
  exact List.append_nil _

/-- A quiet call uses one slot, when all its requests are made. -/
lemma Quiet.process_readout (h : chip.Quiet) :
    ∃ readout : Readout, readout.pending = chip.asked ∧
      readout.mode = chip.readout.mode ∧
      readout.interval = chip.readout.interval ∧
      readout.sinceService = chip.readout.sinceService ∧
      chip.process.readout =
        { readout.useSlot chip.finalLook with
          output := (readout.useSlot chip.finalLook).output.encode } := by
  have hcall : chip.readout.fresh.meetAll chip.demands =
      ({ chip.readout.fresh with pending := chip.asked } : Readout).useSlot chip.finalLook := by
    rw [h.demands_eq, Readout.meetAll_append, Readout.meetAll_of_requests _ h,
      filterMap_address?_demandsAll]
    rfl
  refine ⟨{ chip.readout.fresh with pending := chip.asked }, rfl, rfl, rfl, rfl, ?_⟩
  rw [process_eq]
  show ({ chip.readout.fresh.meetAll chip.demands with output := _ } : Readout) = _
  rw [hcall]

/-- **A quiet call** either counts its slot, or takes two requests from those that wait. -/
lemma Quiet.process_cases (h : chip.Quiet) (hmode : chip.readout.mode.sendsService = true) :
    chip.process.readout.mode = chip.readout.mode ∧
      chip.process.readout.interval = chip.readout.interval ∧
      ((¬ chip.readout.ServiceDue ∧
          chip.process.readout.sinceService = chip.readout.sinceService + 1 ∧
          chip.process.asked.length = chip.asked.length) ∨
        (chip.readout.ServiceDue ∧
          chip.process.readout.sinceService = 0 ∧
          chip.process.asked.length = chip.asked.length - 2)) := by
  obtain ⟨readout, hpending, hsame, hinterval, hsince, hcall⟩ := h.process_readout
  have hdue : readout.ServiceDue ↔ chip.readout.ServiceDue := by
    unfold Readout.ServiceDue
    rw [hinterval, hsince]
  rw [process_asked, hcall, ← hpending, ← hsame, ← hinterval, ← hdue, ← hsince]
  have hslots := readout.useSlot_cases chip.finalLook
  obtain ⟨hcount, hslot⟩ | ⟨-, hlost, -⟩ | ⟨hcount, -, hslot⟩ := hslots
  · rw [hslot]
    exact ⟨rfl, rfl, .inl ⟨hcount, rfl, rfl⟩⟩
  · rw [hsame, hmode] at hlost
    exact absurd hlost.symm Bool.false_ne_true
  · rw [hslot]
    refine ⟨?_, ?_, .inr ⟨hcount, rfl, ?_⟩⟩
    · exact Readout.serviceFrame_mode chip.finalLook readout
    · exact Readout.serviceFrame_interval chip.finalLook readout
    · exact Readout.length_serviceFrame_pending chip.finalLook readout

/-- Every register frame of a quiet call shows the values after all commands of its queue. -/
lemma Quiet.isServiceFrame (h : chip.Quiet) {frame : RegisterFrame}
    (hframe : .register frame ∈ chip.process.frames) :
    Readout.IsServiceFrame chip.finalLook frame := by
  obtain ⟨demand, hdemand, look, hlook, hservice⟩ := mem_process_frames hframe
  rw [h.demands_eq] at hdemand
  rcases List.mem_append.1 hdemand with hdemand | hdemand
  · have hnone := h demand hdemand
    cases demand with
    | request address => exact absurd hlook (by simp [Readout.Demand.look?])
    | send look frame => exact absurd hnone.symm Bool.false_ne_true
    | slot look => exact absurd hnone.symm Bool.false_ne_true
  · obtain rfl := List.mem_singleton.1 hdemand
    obtain rfl := Option.some.inj hlook
    exact hservice

/-! ## Many calls -/

/-- Calls of `process`, and nothing between them. -/
def Operation.calls (count : Nat) : List Operation :=
  List.replicate count process

lemma Operation.calls_valid (count : Nat) : ∀ operation ∈ calls count, operation.Valid := by
  intro operation hoperation
  rw [List.eq_of_mem_replicate hoperation]
  trivial

/-- **What waits gets less by two every `interval` calls.**  Of a count that earlier calls left,
only what is below the interval counts, since a service frame is due at the next slot either way. -/
theorem Quiet.asked_length_le (h : chip.Quiet) (hmode : chip.readout.mode.sendsService = true)
    (hinterval : 0 < chip.readout.interval.toNat) (count : Nat) :
    (chip.run (Operation.calls count)).asked.length ≤
      chip.asked.length -
        2 * ((count + min chip.readout.sinceService (chip.readout.interval.toNat - 1)) /
          chip.readout.interval.toNat) := by
  induction count generalizing chip with
  | zero =>
      have hzero : (0 + min chip.readout.sinceService (chip.readout.interval.toNat - 1)) /
          chip.readout.interval.toNat = 0 := Nat.div_eq_of_lt (by omega)
      rw [hzero]
      exact Nat.le_refl _
  | succ count ih =>
      obtain ⟨hmode', hinterval', hslot⟩ := h.process_cases hmode
      have hrest := ih chip.process_quiet (by rw [hmode', hmode]) (by rwa [hinterval'])
      rw [hinterval'] at hrest
      unfold Operation.calls at hrest ⊢
      rw [List.replicate_succ, run_cons]
      refine Nat.le_trans hrest ?_
      unfold Readout.ServiceDue at hslot
      obtain ⟨hcount, hsince, hlength⟩ | ⟨hdue, hsince, hlength⟩ := hslot
      · -- The slot is counted, on both sides.
        have hused : count + min (chip.readout.sinceService + 1) (chip.readout.interval.toNat - 1) =
            count + 1 + min chip.readout.sinceService (chip.readout.interval.toNat - 1) := by omega
        rw [hsince, hlength, hused]
      · -- The count starts anew, one interval later.
        have hused : count + 1 + min chip.readout.sinceService (chip.readout.interval.toNat - 1) =
            count + chip.readout.interval.toNat := by omega
        rw [hsince, hlength, hused, Nat.add_div_right _ hinterval, Nat.zero_min, Nat.add_zero]
        omega

/-- What is reported on request and what is left are what was asked for, in this order. -/
lemma calls_account (chip : Chip G) (count : Nat) :
    (RegisterSlot.answers
        (Frame.reported (chip.emitted (Operation.calls count)))).map (·.address) ++
        (chip.run (Operation.calls count)).asked = chip.asked := by
  have hexecuted : chip.executed (Operation.calls count) ++
      (chip.run (Operation.calls count)).queue = chip.queue := by
    induction count generalizing chip with
    | zero => rfl
    | succ count ih =>
        have hrest := ih chip.process
        rw [process_queue, List.append_eq_nil_iff] at hrest
        unfold Operation.calls executed at hrest ⊢
        rw [List.replicate_succ, run_cons, collected]
        show chip.queue ++ chip.process.collected _ _ ++ (chip.process.run _).queue = chip.queue
        rw [hrest.1, hrest.2, List.append_nil, List.append_nil]
  have haccount := chip.run_accounts (Operation.calls count) fun operation hoperation => by
    rw [List.eq_of_mem_replicate hoperation]
    rfl
  rw [asked, ← List.append_assoc, haccount, List.append_assoc, ← List.filterMap_append, hexecuted,
    asked]

/-- Every register frame of quiet calls shows the values after all commands of the first. -/
lemma Quiet.isServiceFrame_of_mem_emitted (h : chip.Quiet) {count : Nat} {frame : RegisterFrame}
    (hframe : .register frame ∈ chip.emitted (Operation.calls count)) :
    Readout.IsServiceFrame chip.finalLook frame := by
  induction count generalizing chip with
  | zero => exact absurd hframe List.not_mem_nil
  | succ count ih =>
      unfold Operation.calls emitted at hframe
      rw [List.replicate_succ, collected] at hframe
      rcases List.mem_append.1 hframe with hfirst | hrest
      · exact h.isServiceFrame hfirst
      · rw [← process_finalLook]
        exact ih chip.process_quiet hrest

/-- **Every request is answered**, in order and with the values after all commands of the queue, by
as many intervals of calls as pairs are needed for the requests. -/
theorem Quiet.answers_eq (h : chip.Quiet) (hmode : chip.readout.mode.sendsService = true)
    (hinterval : 0 < chip.readout.interval.toNat) {pairs : Nat}
    (hpairs : chip.asked.length ≤ 2 * pairs) :
    RegisterSlot.answers (Frame.reported
        (chip.emitted (Operation.calls (chip.readout.interval.toNat * pairs)))) =
      chip.asked.map fun address => ⟨address, chip.finalLook address, false⟩ := by
  set count := chip.readout.interval.toNat * pairs
  have hnone : (chip.run (Operation.calls count)).asked = [] := by
    have hle := h.asked_length_le hmode hinterval count
    have hdiv : pairs ≤ (count + min chip.readout.sinceService (chip.readout.interval.toNat - 1)) /
        chip.readout.interval.toNat := by
      rw [Nat.le_div_iff_mul_le hinterval, Nat.mul_comm]
      exact Nat.le_add_right count _
    apply List.eq_nil_of_length_eq_zero
    omega
  have haddresses := chip.calls_account count
  rw [hnone, List.append_nil] at haddresses
  rw [← haddresses, List.map_map]
  refine (List.map_id _).symm.trans (List.map_congr_left ?_)
  intro slot hslot
  obtain ⟨hreported, hrequested⟩ := List.mem_filter.1 hslot
  obtain ⟨frame, hframe, hin⟩ := Frame.exists_of_mem_reported hreported
  have hvalue := (h.isServiceFrame_of_mem_emitted hframe).value_eq slot hin
  obtain ⟨address, value, autoRead⟩ := slot
  obtain rfl : autoRead = false := by simpa using hrequested
  exact congrArg (RegisterSlot.mk address · false) hvalue

end Chip
end PixelChip

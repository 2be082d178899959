import Mathlib.Data.List.DropRight
import PixelChip.Proofs.Chip.Demand
import PixelChip.Proofs.Chip.History
import PixelChip.Random.Draw

/-!
# Requests are answered in order

A request waits until a service frame reports it, and nothing but `clear` takes it away.  Along
every run the addresses asked for since the last `clear` are those that were reported on request,
followed by those that still wait.  The cursor goes round all addresses independently of this, and
neither `clear` nor a change of mode moves it.

Both facts relate the slots reported so far to what waits and to the cursor, and each is kept when
one more slot is reported.  `KeptBySlots` carries such a relation from one slot to whole calls.
-/

namespace PixelChip
namespace Readout

variable {readout : Readout}

/-! ## Service frames -/

lemma nextSlot_value (look : UInt16 → UInt16) (readout : Readout) :
    (readout.nextSlot look).1.value = look (readout.nextSlot look).1.address := by
  cases h : readout.pending with
  | nil => rw [nextSlot_of_nil look h]
  | cons address pending => rw [nextSlot_of_cons look h]

/-- Where the cursor chooses a slot, no request is left for the next. -/
lemma pending_of_autoRead {look : UInt16 → UInt16}
    (h : (readout.nextSlot look).1.autoRead = true) : (readout.nextSlot look).2.pending = [] := by
  cases hpending : readout.pending with
  | nil => rw [nextSlot_of_nil look hpending, hpending]
  | cons address pending =>
      rw [nextSlot_of_cons look hpending] at h
      exact absurd h Bool.false_ne_true

/-- What holds of every service frame: its values are those under `look`, no slot that the cursor
chose stands before one that was asked for, and it reports no error. -/
structure IsServiceFrame (look : UInt16 → UInt16) (frame : RegisterFrame) : Prop where
  value_eq : ∀ slot ∈ [frame.first, frame.second], slot.value = look slot.address
  autoRead_of_first : frame.first.autoRead = true → frame.second.autoRead = true
  error_eq : frame.error = false

lemma isServiceFrame (look : UInt16 → UInt16) (readout : Readout) :
    IsServiceFrame look (readout.serviceFrame look).1 := by
  refine ⟨?_, ?_, rfl⟩
  · intro slot hslot
    rcases List.mem_pair.1 hslot with rfl | rfl
    · exact nextSlot_value look readout
    · exact nextSlot_value look _
  · intro hfirst
    have hnone : (readout.nextSlot look).2.pending = [] := pending_of_autoRead hfirst
    show ((readout.nextSlot look).2.nextSlot look).1.autoRead = true
    rw [nextSlot_of_nil look hnone]

lemma IsServiceFrame.auroraCode_ne {look : UInt16 → UInt16} {frame : RegisterFrame}
    (h : IsServiceFrame look frame) : frame.auroraCode ≠ Aurora.autoRead := by
  unfold RegisterFrame.auroraCode
  rw [h.error_eq]
  cases hfirst : frame.first.autoRead with
  | true =>
      rw [h.autoRead_of_first hfirst]
      decide
  | false => cases frame.second.autoRead <;> decide

lemma mem_output_useSlot {look : UInt16 → UInt16} {frame : RegisterFrame}
    (h : .register frame ∈ (readout.useSlot look).output.items.toList) :
    .register frame ∈ readout.output.items.toList ∨ IsServiceFrame look frame := by
  obtain ⟨-, hslot⟩ | ⟨-, -, hslot⟩ | ⟨-, -, hslot⟩ := readout.useSlot_cases look
  · rw [hslot] at h
    exact .inl h
  · rw [hslot] at h
    exact .inl h
  · rw [hslot] at h
    simp only [Channel.toList_push, List.mem_append, List.mem_singleton,
      Frame.register.injEq] at h
    rcases h with h | rfl
    · exact .inl h
    · exact .inr (isServiceFrame look readout)

lemma mem_output_meet {demand : Demand} {frame : RegisterFrame}
    (h : .register frame ∈ (demand.meet readout).output.items.toList) :
    .register frame ∈ readout.output.items.toList ∨
      ∃ look ∈ demand.look?, IsServiceFrame look frame := by
  cases demand with
  | request address => exact .inl h
  | slot look =>
      rcases mem_output_useSlot h with h | hframe
      · exact .inl h
      · exact .inr ⟨look, rfl, hframe⟩
  | send look data =>
      rcases mem_output_useSlot h with h | hframe
      · refine .inl ?_
        split at h
        · simpa using h
        · exact h
      · exact .inr ⟨look, rfl, hframe⟩

/-- Every register frame that demands add to the output is a service frame of one of them. -/
lemma mem_output_meetAll {demands : List Demand} {frame : RegisterFrame}
    (h : .register frame ∈ (readout.meetAll demands).output.items.toList) :
    .register frame ∈ readout.output.items.toList ∨
      ∃ demand ∈ demands, ∃ look ∈ demand.look?, IsServiceFrame look frame := by
  induction demands generalizing readout with
  | nil => exact .inl h
  | cons demand demands ih =>
      rcases ih h with h | ⟨other, hother, hframe⟩
      · rcases mem_output_meet h with h | hframe
        · exact .inl h
        · exact .inr ⟨demand, List.mem_cons_self, hframe⟩
      · exact .inr ⟨other, List.mem_cons_of_mem demand hother, hframe⟩

/-! ## What every slot keeps -/

/-- Reporting one more slot keeps a relation between the slots reported so far, what waits and the
cursor. -/
def KeptBySlots (P : List RegisterSlot → List UInt16 → Nat → Prop) : Prop :=
  ∀ (look : UInt16 → UInt16) (slots : List RegisterSlot) (readout : Readout),
    P slots readout.pending readout.cursor →
      P (slots ++ [(readout.nextSlot look).1]) (readout.nextSlot look).2.pending
        (readout.nextSlot look).2.cursor

/-- The relation holds of a readout if its frames report what they do after some earlier slots. -/
def Relates (P : List RegisterSlot → List UInt16 → Nat → Prop) (earlier : List RegisterSlot)
    (readout : Readout) : Prop :=
  P (earlier ++ Frame.reported readout.output.items.toList) readout.pending readout.cursor

variable {P : List RegisterSlot → List UInt16 → Nat → Prop} {earlier : List RegisterSlot}

lemma KeptBySlots.useSlot (hP : KeptBySlots P) (look : UInt16 → UInt16)
    (h : readout.Relates P earlier) : (readout.useSlot look).Relates P earlier := by
  obtain ⟨-, hslot⟩ | ⟨-, -, hslot⟩ | ⟨-, -, hslot⟩ := readout.useSlot_cases look
  · rw [hslot]
    exact h
  · rw [hslot]
    exact h
  · -- A service frame is two slots, each from what the one before left.
    have htwo := hP look _ _ (hP look _ readout h)
    rw [hslot]
    simpa [Relates, serviceFrame] using htwo

lemma KeptBySlots.emit (hP : KeptBySlots P) (look : UInt16 → UInt16) (frame : DataFrame)
    (h : readout.Relates P earlier) : (readout.emit look frame).Relates P earlier := by
  apply hP.useSlot
  split
  · unfold Relates
    rw [output_push, Frame.reported_append, Frame.reported_data, List.append_nil]
    exact h
  · exact h

/-! ## Requests and the cursor -/

/-- The addresses reported on request and those that wait are the ones asked for. -/
def Accounts (asked : List UInt16) (slots : List RegisterSlot) (pending : List UInt16)
    (_cursor : Nat) : Prop :=
  (RegisterSlot.answers slots).map (·.address) ++ pending = asked

lemma accounts_keptBySlots (asked : List UInt16) : KeptBySlots (Accounts asked) := by
  intro look slots readout h
  unfold Accounts at *
  rw [RegisterSlot.answers_append, List.map_append]
  cases hpending : readout.pending with
  | nil =>
      rw [nextSlot_of_nil look hpending]
      simpa [RegisterSlot.answers, hpending] using h
  | cons address pending =>
      rw [nextSlot_of_cons look hpending]
      simpa [RegisterSlot.answers, hpending] using h

/-- The slots that the cursor chose go round the addresses, and the cursor is where they end. -/
structure Rotates (slots : List RegisterSlot) (_pending : List UInt16) (cursor : Nat) : Prop where
  addresses : ((RegisterSlot.autoReads slots).map fun slot => slot.address.toNat) =
    (List.range (RegisterSlot.autoReads slots).length).map (· % cursorEnd)
  cursor_eq : cursor = (RegisterSlot.autoReads slots).length % cursorEnd

/-- The slot that the cursor chose after `k` others reports the address `k`, counted round. -/
lemma Rotates.address_eq {slots : List RegisterSlot} {pending : List UInt16} {cursor k : Nat}
    {slot : RegisterSlot} (h : Rotates slots pending cursor)
    (hslot : (RegisterSlot.autoReads slots)[k]? = some slot) :
    slot.address.toNat = k % cursorEnd := by
  obtain ⟨hlt, -⟩ := List.getElem?_eq_some_iff.1 hslot
  have hk := congrArg (·[k]?) h.addresses
  simp only [List.getElem?_map, hslot, List.getElem?_range hlt, Option.map_some] at hk
  exact Option.some.inj hk

/-- The cursor counts the slots that it chose, and goes back to 0 at its end. -/
lemma cursor_succ (count : Nat) :
    (if count % cursorEnd + 1 < cursorEnd then count % cursorEnd + 1 else 0) =
      (count + 1) % cursorEnd := by
  unfold cursorEnd
  split <;> omega

/-- Every address that the cursor chooses is one of 16 bits. -/
lemma cursor_lt (count : Nat) : count % cursorEnd < 65536 := by
  unfold cursorEnd
  omega

lemma rotates_keptBySlots : KeptBySlots Rotates := by
  intro look slots readout h
  cases hpending : readout.pending with
  | nil =>
      rw [nextSlot_of_nil look hpending, h.cursor_eq]
      constructor
      · rw [RegisterSlot.autoReads_append, List.map_append, h.addresses, List.length_append]
        simp [RegisterSlot.autoReads, List.range_succ, cursor_lt]
      · rw [cursor_succ, RegisterSlot.autoReads_append, List.length_append]
        rfl
  | cons address pending =>
      rw [nextSlot_of_cons look hpending]
      constructor
      · simpa [RegisterSlot.autoReads] using h.addresses
      · simpa [RegisterSlot.autoReads] using h.cursor_eq

/-- **Demands add their requests at the end**, and reporting takes them from the front. -/
lemma Relates.accounts_meetAll {asked : List UInt16} (h : readout.Relates (Accounts asked) earlier)
    (demands : List Demand) :
    (readout.meetAll demands).Relates (Accounts (asked ++ demands.filterMap Demand.address?))
      earlier := by
  induction demands generalizing asked readout with
  | nil => simpa using h
  | cons demand demands ih =>
      rw [meetAll_cons]
      cases demand with
      | request address =>
          have hrequest : (readout.request address).Relates (Accounts (asked ++ [address]))
              earlier := by
            unfold Relates Accounts at *
            rw [← h, List.append_assoc]
            rfl
          have hrest := ih hrequest
          rw [List.append_assoc] at hrest
          exact hrest
      | slot look => exact ih ((accounts_keptBySlots asked).useSlot look h)
      | send look frame => exact ih ((accounts_keptBySlots asked).emit look frame h)

lemma Relates.rotates_meetAll (h : readout.Relates Rotates earlier) (demands : List Demand) :
    (readout.meetAll demands).Relates Rotates earlier := by
  apply meetAll_induction (P := fun readout => readout.Relates Rotates earlier) h
  intro demand _ readout h
  cases demand with
  | request address => exact ⟨h.addresses, h.cursor_eq⟩
  | slot look => exact rotates_keptBySlots.useSlot look h
  | send look frame => exact rotates_keptBySlots.emit look frame h

end Readout

/-! ## Calls -/

namespace Chip

variable {G : Type} [Generator G] {chip : Chip G}

/-- A command asks for an address if it is a read request. -/
lemma filterMap_address?_demands (detector : Detector G) (command : Command) :
    (detector.demands command).filterMap Readout.Demand.address? =
      command.requested?.toList := by
  cases command with
  | trigger trigger =>
      show (List.map _ _).filterMap _ = []
      rw [List.filterMap_map, List.filterMap_eq_nil_iff]
      intro frame _
      rfl
  | _ => rfl

lemma filterMap_address?_demandsAll (detector : Detector G) (commands : List Command) :
    (detector.demandsAll commands).filterMap Readout.Demand.address? =
      commands.filterMap Command.requested? := by
  induction commands generalizing detector with
  | nil => rfl
  | cons command commands ih =>
      rw [Detector.demandsAll, List.filterMap_append, ih, filterMap_address?_demands]
      cases hrequested : command.requested? with
      | none => rw [List.filterMap_cons_none hrequested, Option.toList_none, List.nil_append]
      | some address =>
          rw [List.filterMap_cons_some hrequested, Option.toList_some, List.singleton_append]

/-- A call asks for the addresses of the read requests in the queue. -/
lemma filterMap_address?_process (chip : Chip G) :
    chip.demands.filterMap Readout.Demand.address? = chip.queue.filterMap Command.requested? :=
  (filterMap_demands (fun _ => rfl) chip).trans (filterMap_address?_demandsAll _ _)

/-- What a call reports on request and leaves waiting is what waited and what it was asked for. -/
lemma process_accounts (chip : Chip G) :
    (RegisterSlot.answers (Frame.reported chip.process.frames)).map (·.address) ++
        chip.process.readout.pending =
      chip.readout.pending ++ chip.queue.filterMap Command.requested? := by
  have hfresh : chip.readout.fresh.Relates (Readout.Accounts chip.readout.pending) [] := rfl
  have hcall := hfresh.accounts_meetAll chip.demands
  rw [filterMap_address?_process] at hcall
  rw [process_frames, process_eq]
  exact hcall

/-- The cursor goes on in a call from where earlier calls left it. -/
lemma process_rotates {earlier : List RegisterSlot}
    (h : Readout.Rotates earlier chip.readout.pending chip.readout.cursor) :
    Readout.Rotates (earlier ++ Frame.reported chip.process.frames) chip.process.readout.pending
      chip.process.readout.cursor := by
  have hfresh : chip.readout.fresh.Relates Readout.Rotates earlier := by
    unfold Readout.Relates
    rw [show Frame.reported chip.readout.fresh.output.items.toList = [] from rfl,
      List.append_nil]
    exact h
  rw [process_frames, process_eq]
  exact hfresh.rotates_meetAll chip.demands

/-- Every register frame of a call is a service frame. -/
lemma mem_process_frames {frame : RegisterFrame} (h : .register frame ∈ chip.process.frames) :
    ∃ demand ∈ chip.demands, ∃ look ∈ demand.look?, Readout.IsServiceFrame look frame := by
  rw [process_frames] at h
  rcases Readout.mem_output_meetAll h with h | h
  · exact absurd h List.not_mem_nil
  · exact h

/-! ## Runs -/

/-- Whether the operation leaves waiting requests alone. -/
def Operation.keepsRequests : Operation → Bool
  | clear => false
  | _ => true

lemma Operation.apply_accounts (chip : Chip G) {operation : Operation}
    (h : operation.keepsRequests = true) :
    (RegisterSlot.answers (Frame.reported
        (operation.shown (fun chip => chip.process.frames) chip))).map (·.address) ++
        (operation.apply chip).readout.pending =
      chip.readout.pending ++
        (operation.shown Chip.queue chip).filterMap Command.requested? := by
  cases operation with
  | process => exact process_accounts chip
  | clear => exact absurd h Bool.false_ne_true
  | push command =>
      show (chip.push command).2.readout.pending = _
      rw [push_snd]
      exact (List.append_nil _).symm
  | _ => exact (List.append_nil _).symm

/-- **Along a run without `clear`** what is reported on request and what is left waiting are what
waited at its start and what was asked for since. -/
theorem run_accounts (chip : Chip G) (operations : List Operation)
    (h : ∀ operation ∈ operations, operation.keepsRequests = true) :
    (RegisterSlot.answers (Frame.reported (chip.emitted operations))).map (·.address) ++
        (chip.run operations).readout.pending =
      chip.readout.pending ++ (chip.executed operations).filterMap Command.requested? := by
  induction operations generalizing chip with
  | nil => exact (List.append_nil _).symm
  | cons operation operations ih =>
      have hfirst := operation.apply_accounts chip (h operation List.mem_cons_self)
      have hrest := ih (operation.apply chip) fun other hother =>
        h other (List.mem_cons_of_mem operation hother)
      unfold emitted executed at *
      rw [collected, collected, run_cons, Frame.reported_append, RegisterSlot.answers_append,
        List.map_append, List.filterMap_append, List.append_assoc, hrest, ← List.append_assoc,
        hfirst, List.append_assoc]

lemma Operation.apply_rotates {earlier : List RegisterSlot}
    (h : Readout.Rotates earlier chip.readout.pending chip.readout.cursor)
    (operation : Operation) :
    Readout.Rotates
      (earlier ++ Frame.reported (operation.shown (fun chip => chip.process.frames) chip))
      (operation.apply chip).readout.pending (operation.apply chip).readout.cursor := by
  have hsilent : Readout.Rotates (earlier ++ Frame.reported []) chip.readout.pending
      chip.readout.cursor := by
    rwa [Frame.reported_nil, List.append_nil]
  cases operation with
  | process => exact process_rotates h
  | push command =>
      show Readout.Rotates _ (chip.push command).2.readout.pending
        (chip.push command).2.readout.cursor
      rw [push_snd]
      exact hsilent
  | _ => exact ⟨hsilent.addresses, hsilent.cursor_eq⟩

/-- **Along every run** the cursor goes round the addresses. -/
theorem run_rotates (operations : List Operation) {earlier : List RegisterSlot}
    (h : Readout.Rotates earlier chip.readout.pending chip.readout.cursor) :
    Readout.Rotates (earlier ++ Frame.reported (chip.emitted operations))
      (chip.run operations).readout.pending (chip.run operations).readout.cursor := by
  induction operations generalizing chip earlier with
  | nil => rwa [emitted, collected, Frame.reported_nil, List.append_nil]
  | cons operation operations ih =>
      have hrest := ih (operation.apply_rotates h)
      rwa [List.append_assoc, ← Frame.reported_append] at hrest

/-- Every register frame of a run is a service frame. -/
lemma mem_emitted {operations : List Operation} {frame : RegisterFrame}
    (h : .register frame ∈ chip.emitted operations) :
    ∃ look, Readout.IsServiceFrame look frame := by
  induction operations generalizing chip with
  | nil => exact absurd h List.not_mem_nil
  | cons operation operations ih =>
      rcases List.mem_append.1 h with hshown | hrest
      · cases operation with
        | process =>
            obtain ⟨-, -, look, -, hframe⟩ := mem_process_frames hshown
            exact ⟨look, hframe⟩
        | _ => exact absurd hshown List.not_mem_nil
      · exact ih hrest

/-- The operations of a run up to its last `clear`. -/
def upToClear (operations : List Operation) : List Operation :=
  operations.rdropWhile Operation.keepsRequests

/-- The operations of a run since its last `clear`, or all of them if there is none. -/
def sinceClear (operations : List Operation) : List Operation :=
  operations.rtakeWhile Operation.keepsRequests

/-- Nothing waits at power-on, nor after a `clear`. -/
lemma pending_upToClear (id : UInt8) (mode : OutputMode) (generator : G)
    (operations : List Operation) :
    ((powerOn id mode generator).run (upToClear operations)).readout.pending = [] := by
  unfold upToClear
  induction operations using List.reverseRecOn with
  | nil => rfl
  | append_singleton operations last ih =>
      rw [List.rdropWhile_concat]
      split
      · exact ih
      · rename_i hclear
        rw [run_append]
        cases last with
        | clear => rfl
        | _ => exact absurd rfl hclear

/-- **No read request is lost, duplicated or reordered.**  Since power-on or the last `clear`, the
addresses that executed commands asked for are those that were reported on request, in order, and
then those that wait.  Over the whole run, the slots that the cursor chose go round the addresses
below its end.  No service frame has such a slot before one that was asked for, so that the aurora
code for this is never sent. -/
theorem requests_answered_in_order (id : UInt8) (mode : OutputMode) (generator : G)
    (operations : List Operation) :
    let start := powerOn id mode generator
    let cleared := start.run (upToClear operations)
    (cleared.executed (sinceClear operations)).filterMap Command.requested? =
        (RegisterSlot.answers
            (Frame.reported (cleared.emitted (sinceClear operations)))).map (·.address) ++
          (start.run operations).readout.pending ∧
      (∀ (k : Nat) (slot : RegisterSlot),
        (RegisterSlot.autoReads (Frame.reported (start.emitted operations)))[k]? = some slot →
          slot.address.toNat = k % 511) ∧
      ∀ frame : RegisterFrame, .register frame ∈ start.emitted operations →
        (frame.first.autoRead = true → frame.second.autoRead = true) ∧
          frame.auroraCode ≠ Aurora.autoRead := by
  intro start cleared
  refine ⟨?_, ?_, ?_⟩
  · have hrun := cleared.run_accounts (sinceClear operations) fun operation hoperation =>
      List.mem_rtakeWhile_imp hoperation
    rw [pending_upToClear, List.nil_append] at hrun
    rw [← hrun, ← run_append, upToClear, sinceClear, List.rdropWhile_append_rtakeWhile]
  · intro k slot hslot
    have hstart : Readout.Rotates [] start.readout.pending start.readout.cursor := ⟨rfl, rfl⟩
    have hrun := run_rotates operations hstart
    rw [List.nil_append] at hrun
    exact hrun.address_eq hslot
  · intro frame hframe
    obtain ⟨look, hservice⟩ := mem_emitted hframe
    exact ⟨hservice.autoRead_of_first, hservice.auroraCode_ne⟩

/-- A service frame answers the first two of three requests, and the third waits. -/
theorem two_of_three_requests_are_answered :
    let start : Chip ChaCha := powerOn 0 .all (ChaCha.ofSeed 0)
    let operations : List Operation :=
      [.setInterval 1, .push (.read ⟨0, 12⟩), .push (.read ⟨0, 20⟩), .push (.read ⟨0, 12⟩),
        .process]
    (start.executed operations).filterMap Command.requested? = [12, 20, 12] ∧
      (RegisterSlot.answers (Frame.reported (start.emitted operations))).map (·.address) =
        [12, 20] ∧
      (start.run operations).readout.pending = [12] := by
  intro start operations
  have hrequested : (start.executed operations).filterMap Command.requested? = [12, 20, 12] := by
    decide +kernel
  have hpending : (start.run operations).readout.pending = [12] := by decide +kernel
  -- nothing of this run is cleared
  have hkept : start.run (upToClear operations) = start := rfl
  have hall : sinceClear operations = operations := rfl
  obtain ⟨hrequests, -⟩ := requests_answered_in_order 0 .all (ChaCha.ofSeed 0) operations
  have hsplit : [12, 20, 12] = [12, 20] ++ ([12] : List UInt16) := rfl
  rw [hkept, hall, hrequested, hpending, hsplit] at hrequests
  exact ⟨hrequested, (List.append_cancel_right hrequests).symm, hpending⟩

end Chip
end PixelChip

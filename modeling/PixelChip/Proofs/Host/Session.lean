import PixelChip.Host.Session
import PixelChip.Proofs.Chip.Batches
import PixelChip.Proofs.Chip.Requests
import PixelChip.Proofs.Link.Streaming

/-!
# What a session answers

In a session bytes arrive, commands go to the chip one at a time, and ticks come in between, in any
order.  `Session.Serves` says what holds between any two of these events.  The commands that the
chip got are those that were executed and those that wait in its queue; the detector is where the
executed ones lead it; the data frames that were sent are theirs, and what was reported on request
and what waits to be reported are what they asked for.

One event preserves this (`Serves.step`), and so do whole runs.  When the host hangs up, everything
that it sent has been executed, once and in order, so that nothing of the schedule is left in the
data (`timing_does_not_matter`).
-/

namespace PixelChip

/-! ## Events and the decoder -/

namespace SessionEvent

/-- The bytes that arrive with an event. -/
def bytes : SessionEvent → List UInt8
  | arrive bytes => bytes
  | handOver | tick => []

/-- All bytes that the host sends, in order. -/
def arrived (events : List SessionEvent) : List UInt8 :=
  events.flatMap bytes

/-- What an event is to the decoder. -/
def decoding? : SessionEvent → Option StreamDecoder.Event
  | arrive bytes => some (.arrive bytes)
  | handOver => some .decode
  | tick => none

/-- What the decoder sees of some events. -/
def decodings (events : List SessionEvent) : List StreamDecoder.Event :=
  events.filterMap decoding?

lemma arrived_decodings (events : List SessionEvent) :
    StreamDecoder.arrived (decodings events) = arrived events := by
  induction events with
  | nil => rfl
  | cons event events ih =>
      cases event with
      | arrive bytes => exact congrArg (bytes ++ ·) ih
      | handOver => exact ih
      | tick => exact ih

end SessionEvent

open SessionEvent

/-! ## Chips -/

namespace Detector

variable {G : Type} [Generator G] {detector start : Detector G} {executed : List Command}

/-- A detector that some commands led where it is goes on with others as if all came in a row. -/
lemma executeAll_of_drained_eq (h : detector.drained = (start.executeAll executed).drained)
    (commands : List Command) :
    (detector.executeAll commands).drained = (start.executeAll (executed ++ commands)).drained := by
  rw [← executeAll_drained, h, executeAll_drained, ← executeAll_append]

lemma dataFrames_of_drained_eq (h : detector.drained = (start.executeAll executed).drained)
    (commands : List Command) :
    start.dataFrames executed ++ detector.dataFrames commands =
      start.dataFrames (executed ++ commands) := by
  rw [← dataFrames_drained detector, h, dataFrames_drained, ← dataFrames_append]

end Detector

namespace Chip

variable {G : Type}

/-- A chip admits what is addressed to it. -/
lemma inlet_admits (chip : Chip G) : chip.inlet.admits = (·.addresses chip.id) := by
  funext command
  exact Bool.and_true _

variable [Generator G]

lemma pushAll_eq (chip : Chip G) (commands : List Command) :
    chip.pushAll commands =
      { chip with queue := chip.queue ++ commands.filter (·.addresses chip.id) } := by
  rw [← inlet_admits, ← run_pushes, run, List.foldl_map]
  rfl

end Chip

/-! ## Sessions -/

namespace Session

variable {G : Type} [Generator G]

/-- A session that started with `chip`, and in which the commands `received` were handed over and
those in `executed` were executed. -/
structure Serves (chip : Chip G) (received executed : List Command) (session : Session G) :
    Prop where
  id_eq : session.chip.id = chip.id
  mode_eq : session.chip.readout.mode = chip.readout.mode
  /-- What is not executed waits. -/
  received_eq : executed ++ session.chip.queue = received
  /-- The executed commands led the detector where it is. -/
  detector_eq : session.chip.detector.drained = (chip.detector.executeAll executed).drained
  /-- The data frames of the executed commands were sent. -/
  data_eq : session.sent.filterMap Frame.data? =
    if chip.readout.mode.sendsData then chip.detector.dataFrames executed else []
  /-- What the executed commands asked for was reported or waits. -/
  requests_eq : (RegisterSlot.answers (Frame.reported session.sent)).map (·.address) ++
    session.chip.readout.pending = executed.filterMap Command.requested?

variable {chip : Chip G} {received executed : List Command} {session : Session G}

lemma start_serves (chip : Chip G) : (start chip).Serves chip [] [] where
  id_eq := rfl
  mode_eq := rfl
  received_eq := rfl
  detector_eq := rfl
  data_eq := by
    show [] = if chip.readout.mode.sendsData then [] else []
    split <;> rfl
  requests_eq := rfl

/-- Commands that are handed over wait. -/
lemma Serves.pushAll (h : session.Serves chip received executed) (handed : List Command)
    (decoder : StreamDecoder Command) :
    Serves chip (received ++ handed.filter (·.addresses chip.id)) executed
      { session with chip := session.chip.pushAll handed, commands := decoder } := by
  rw [Chip.pushAll_eq, h.id_eq]
  exact
    { id_eq := rfl
      mode_eq := h.mode_eq
      received_eq := by
        show executed ++ (session.chip.queue ++ _) = _
        rw [← List.append_assoc, h.received_eq]
      detector_eq := h.detector_eq
      data_eq := h.data_eq
      requests_eq := h.requests_eq }

/-- An answer executes what waits, and its frames are sent. -/
lemma Serves.answer (h : session.Serves chip received executed) :
    session.answer.Serves chip received received := by
  have hprocess := session.chip.process_eq
  have hmode := (session.chip.readout.fresh.meetAll_settings session.chip.demands).1
  have hdata := session.chip.process_data
  have hrequests := session.chip.process_accounts
  have hqueue : session.answer.chip.queue = [] := by
    show session.chip.process.queue = []
    rw [hprocess]
  constructor
  case id_eq =>
    show session.chip.process.id = chip.id
    rw [hprocess]
    exact h.id_eq
  case mode_eq =>
    show session.chip.process.readout.mode = chip.readout.mode
    rw [hprocess]
    exact hmode.trans h.mode_eq
  case received_eq => rw [hqueue, List.append_nil]
  case detector_eq =>
    show session.chip.process.detector.drained = _
    rw [Chip.process_detector]
    show (session.chip.detector.executeAll session.chip.queue).drained = _
    rw [Detector.executeAll_of_drained_eq h.detector_eq, h.received_eq]
  case data_eq =>
    show (session.sent ++ session.chip.process.frames).filterMap Frame.data? = _
    rw [List.filterMap_append, h.data_eq, hdata, h.mode_eq]
    split
    · rw [Detector.dataFrames_of_drained_eq h.detector_eq, h.received_eq]
    · rfl
  case requests_eq =>
    show (RegisterSlot.answers (Frame.reported (session.sent ++ session.chip.process.frames))).map
      (·.address) ++ session.chip.process.readout.pending = _
    rw [Frame.reported_append, RegisterSlot.answers_append, List.map_append, List.append_assoc,
      hrequests, ← List.append_assoc, h.requests_eq, ← List.filterMap_append, h.received_eq]

/-- **One event** keeps what holds of a session.  The commands that the decoder delivers are handed
over. -/
theorem Serves.step (h : session.Serves chip received executed) (event : SessionEvent) :
    ∃ executed', (session.step event).Serves chip
        (received ++ (session.commands.serve (decodings [event])).1.filter
          (·.addresses chip.id)) executed' ∧
      (session.step event).commands = (session.commands.serve (decodings [event])).2 := by
  cases event with
  | arrive bytes => exact ⟨executed, h.pushAll [] _, rfl⟩
  | handOver =>
      refine ⟨executed, ?_, rfl⟩
      have hserve : (session.commands.serve (decodings [.handOver])).1 =
          session.commands.next.1.toList := List.append_nil _
      rw [hserve]
      exact h.pushAll session.commands.next.1.toList session.commands.next.2
  | tick =>
      refine ⟨received, ?_, rfl⟩
      show session.answer.Serves chip (received ++ []) received
      rw [List.append_nil]
      exact h.answer

/-- **Along a run** all commands that the decoder delivers are handed over, in order. -/
theorem Serves.run (h : session.Serves chip received executed) (events : List SessionEvent) :
    ∃ executed', (session.run events).Serves chip
        (received ++ (session.commands.serve (decodings events)).1.filter
          (·.addresses chip.id)) executed' ∧
      (session.run events).commands = (session.commands.serve (decodings events)).2 := by
  induction events generalizing session received executed with
  | nil =>
      refine ⟨executed, ?_, rfl⟩
      show session.Serves chip (received ++ []) executed
      rwa [List.append_nil]
  | cons event events ih =>
      obtain ⟨executed', hstep, hcommands⟩ := h.step event
      obtain ⟨executed'', hrun, hlast⟩ := ih hstep
      have hserve : session.commands.serve (decodings (event :: events)) =
          ((session.commands.serve (decodings [event])).1 ++
              ((session.step event).commands.serve (decodings events)).1,
            ((session.step event).commands.serve (decodings events)).2) := by
        rw [hcommands]
        cases event with
        | arrive bytes => rfl
        | handOver => exact Prod.ext (congrArg (· ++ _) (List.append_nil _).symm) rfl
        | tick => rfl
      rw [hserve, List.filter_append, ← List.append_assoc]
      exact ⟨executed'', hrun, hlast⟩

/-- When the host hangs up, what it sent is handed over and executed. -/
theorem Serves.hangUp (h : session.Serves chip received executed) :
    let handed := session.commands.drain.1.filter (·.addresses chip.id)
    session.hangUp.Serves chip (received ++ handed) (received ++ handed) :=
  (h.pushAll session.commands.drain.1 session.commands.drain.2.finish.2).answer

/-! ## Timing -/

/-- A session of which the host hangs up in the end executes what its bytes decode to. -/
theorem hangUp_serves (chip : Chip G) (events : List SessionEvent) :
    let commands := (StreamDecoder.empty.feed (arrived events)).drain.1.filter
      (·.addresses chip.id)
    ((start chip).run events).hangUp.Serves chip commands commands := by
  intro commands
  obtain ⟨executed, hrun, hlast⟩ := (start_serves chip).run events
  have hdelivery := StreamDecoder.delivery_eq_drain (α := Command) .empty (decodings events)
  rw [arrived_decodings] at hdelivery
  have hcommands : commands =
      ((start chip).commands.serve (decodings events)).1.filter (·.addresses chip.id) ++
        ((start chip).run events).commands.drain.1.filter (·.addresses chip.id) := by
    rw [hlast, ← List.filter_append]
    exact congrArg (fun delivered => delivered.1.filter (·.addresses chip.id)) hdelivery.symm
  have hhangUp := hrun.hangUp
  rw [List.nil_append] at hhangUp
  rw [hcommands]
  exact hhangUp

/-- **The data of a session do not depend on timing.**  However what the host sends is cut into
pieces, and whenever commands are handed over and ticks come, the data frames that it gets and the
detector at the end are those of one call of `process` with all commands for the chip that the bytes
decode to.  Ticks between commands that are handed over after the end of the stream are ticks of a
schedule in which these commands are handed over before it.  The generator is any that is
deterministic; without a seed its state holds what the clock shows at each trigger. -/
theorem timing_does_not_matter (chip : Chip G) (events : List SessionEvent) :
    let session := ((start chip).run events).hangUp
    let commands := (StreamDecoder.empty.feed (arrived events)).drain.1.filter
      (·.addresses chip.id)
    let once := ({ chip.clear with queue := commands } : Chip G).process
    session.sent.filterMap Frame.data? = once.frames.filterMap Frame.data? ∧
      session.chip.detector.registers.values = once.detector.registers.values ∧
      session.chip.detector.matrix = once.detector.matrix ∧
      session.chip.detector.thresholds = once.detector.thresholds ∧
      session.chip.detector.generator = once.detector.generator := by
  intro session commands once
  have hserves := hangUp_serves chip events
  refine ⟨?_, Detector.eq_of_drained_eq ?_⟩
  · rw [hserves.data_eq, Chip.process_data]
    rfl
  · rw [hserves.detector_eq, Chip.process_detector]
    rfl

/-- A trigger arrives in two pieces with ticks between them, and the host gets its header. -/
theorem trigger_in_pieces_is_answered :
    let chip : Chip ChaCha := (Chip.powerOn 0 .all (ChaCha.ofSeed 0)).run
      [.setSeed 7, .changeRegisters fun registers => { registers with values := .replicate 138 0 }]
    let events : List SessionEvent :=
      [.arrive [0x56], .handOver, .tick, .arrive [0xD4], .tick, .handOver, .tick]
    ((start chip).run events).hangUp.sent.filterMap Frame.data? =
      [Detector.header (Trigger.ofPattern 7 31)] := by
  intro chip events
  exact (timing_does_not_matter chip events).1.trans (by decide +kernel)

end Session
end PixelChip

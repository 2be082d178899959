import PixelChip.Proofs.Host.Session
import PixelChip.Random.Draw

/-!
# Hosts one after another

A service has one session after another with the same chip.  A session may be over at any point: the
host hangs up, the link breaks, or only some of the frames of an answer get through.  What the chip
has then not executed, not reported or not sent is what the next session starts with, and clears.

So every session serves its own host (`Course.outcome_serves`), whatever came before, and what a
host gets answers what it sent (`answers_stay_with_their_host`).
-/

namespace PixelChip

open SessionEvent

/-- How a session ends. -/
inductive Ending where
  /-- The host hangs up and is answered for the last time. -/
  | hangUp
  /-- The session is over between two events, since the link cannot be read or the service stops. -/
  | stop
  /-- The link breaks at a tick, when so many frames of the answer are through. -/
  | breakAtTick (through : Nat)
  /-- The link breaks after the host hung up, when so many frames of the last answer are through. -/
  | breakAtHangUp (through : Nat)

/-- What happens in a session up to its end. -/
structure Course where
  events : List SessionEvent
  ending : Ending

namespace Session

variable {G : Type}

/-- Only so many of the frames sent reach the host. -/
def cut (session : Session G) (frames : Nat) : Session G :=
  { session with sent := session.sent.take frames }

/-- The end of a session. -/
def finish [Generator G] (session : Session G) : Ending → Session G
  | .hangUp => session.hangUp
  | .stop => session
  | .breakAtTick through => session.answer.cut (session.sent.length + through)
  | .breakAtHangUp through => session.hangUp.cut (session.sent.length + through)

end Session

namespace Course

variable {G : Type} [Generator G]

/-- The session at its end, given the chip that the host finds. -/
def outcome (course : Course) (chip : Chip G) : Session G :=
  ((Session.start chip).run course.events).finish course.ending

/-- The commands that are handed over in a session.  If the host hangs up they are all that its
bytes decode to. -/
def handedOver (course : Course) : List Command :=
  match course.ending with
  | .stop | .breakAtTick _ => (StreamDecoder.empty.serve (decodings course.events)).1
  | .hangUp | .breakAtHangUp _ => (StreamDecoder.empty.feed (arrived course.events)).drain.1

/-- What is handed over is what the bytes of the host decode to, or the beginning of it. -/
lemma handedOver_prefix (course : Course) :
    course.handedOver <+: (StreamDecoder.empty.feed (arrived course.events)).drain.1 := by
  have hserve : (StreamDecoder.empty.serve (α := Command) (decodings course.events)).1 <+:
      (StreamDecoder.empty.feed (arrived course.events)).drain.1 := by
    rw [← arrived_decodings, ← StreamDecoder.delivery_eq_drain]
    exact List.prefix_append _ _
  unfold handedOver
  cases course.ending with
  | hangUp => exact List.prefix_refl _
  | stop => exact hserve
  | breakAtTick through => exact hserve
  | breakAtHangUp through => exact List.prefix_refl _

/-- **At its end** a session has served the commands handed over in it, and the host got what was
sent or the beginning of it. -/
theorem outcome_serves (course : Course) (chip : Chip G) :
    ∃ (executed : List Command) (sent : List Frame),
      ({ course.outcome chip with sent } : Session G).Serves chip
        (course.handedOver.filter (·.addresses chip.id)) executed ∧
      (course.outcome chip).sent <+: sent := by
  obtain ⟨executed, hrun, -⟩ := (Session.start_serves chip).run course.events
  have hhangUp := Session.hangUp_serves chip course.events
  unfold outcome handedOver
  cases course.ending with
  | hangUp => exact ⟨_, _, hhangUp, List.prefix_refl _⟩
  | stop => exact ⟨executed, _, hrun, List.prefix_refl _⟩
  | breakAtTick through => exact ⟨_, _, hrun.answer, List.take_prefix _ _⟩
  | breakAtHangUp through => exact ⟨_, _, hhangUp, List.take_prefix _ _⟩

end Course

/-! ## Sessions one after another -/

/-- Frames that are first report registers that are first. -/
lemma Frame.reported_prefix {frames frames' : List Frame} (h : frames <+: frames') :
    reported frames <+: reported frames' := by
  obtain ⟨rest, rfl⟩ := h
  rw [reported_append]
  exact List.prefix_append _ _

variable {G : Type} [Generator G]

/-- The time of one host. -/
structure Stay (G : Type) where
  /-- The chip that the host finds. -/
  found : Chip G
  course : Course

/-- The session of a host at its end. -/
def Stay.session (stay : Stay G) : Session G :=
  stay.course.outcome stay.found

/-- The sessions of some hosts, each with the chip that the one before leaves. -/
def Chip.serve (chip : Chip G) : List Course → List (Stay G)
  | [] => []
  | course :: courses =>
    { found := chip, course } :: (course.outcome chip).chip.serve courses

/-- Every host finds the same chip. -/
lemma Chip.id_of_mem_serve {chip : Chip G} {courses : List Course} {stay : Stay G}
    (h : stay ∈ chip.serve courses) : stay.found.id = chip.id := by
  induction courses generalizing chip with
  | nil => exact absurd h List.not_mem_nil
  | cons course courses ih =>
      obtain rfl | h := List.mem_cons.1 h
      · rfl
      · obtain ⟨executed, sent, hserves, -⟩ := course.outcome_serves chip
        exact (ih h).trans hserves.id_eq

/-- A data frame is of a trigger. -/
lemma Detector.exists_trigger_of_mem_dataFrames {detector : Detector G}
    {commands : List Command} {frame : DataFrame} (h : frame ∈ detector.dataFrames commands) :
    ∃ before trigger after, commands = before ++ .trigger trigger :: after ∧
      frame ∈ ((detector.executeAll before).trigger trigger).1 := by
  induction commands generalizing detector with
  | nil => exact absurd h List.not_mem_nil
  | cons command commands ih =>
      rw [dataFrames, demandsAll, List.filterMap_append] at h
      obtain hfirst | hrest := List.mem_append.1 h
      · cases command with
        | trigger trigger =>
            obtain ⟨demand, hdemand, hdata⟩ := List.mem_filterMap.1 hfirst
            obtain ⟨sent, hsent, rfl⟩ := List.mem_map.1 hdemand
            rw [← Option.some.inj hdata]
            exact ⟨[], trigger, commands, rfl, hsent⟩
        | _ => exact absurd hfirst List.not_mem_nil
      · obtain ⟨before, trigger, after, rfl, hframe⟩ := ih hrest
        exact ⟨command :: before, trigger, after, rfl, hframe⟩

/-- **One host never receives what another asked for.**  In a service of any number of sessions,
each of which may be over at any point, let one host's commands be those for the chip that were
handed over in its session.  The addresses that it got on request are the first of those that its
read requests ask for, in order, and the data frames that it got are the first of those that its
commands make, each of them of one of its triggers. -/
theorem answers_stay_with_their_host (chip : Chip G) (courses : List Course) {stay : Stay G}
    (h : stay ∈ chip.serve courses) :
    let commands := stay.course.handedOver.filter (·.addresses chip.id)
    let sent := stay.session.sent
    stay.course.handedOver <+: (StreamDecoder.empty.feed (arrived stay.course.events)).drain.1 ∧
      (RegisterSlot.answers (Frame.reported sent)).map (·.address) <+:
        commands.filterMap Command.requested? ∧
      sent.filterMap Frame.data? <+: stay.found.detector.dataFrames commands ∧
      ∀ frame ∈ sent.filterMap Frame.data?,
        ∃ before trigger after, commands = before ++ .trigger trigger :: after ∧
          frame ∈ ((stay.found.detector.executeAll before).trigger trigger).1 := by
  intro commands sent
  obtain ⟨executed, all, hserves, hsent⟩ := stay.course.outcome_serves stay.found
  rw [Chip.id_of_mem_serve h] at hserves
  have hanswers : (RegisterSlot.answers (Frame.reported sent)).map (·.address) <+:
      commands.filterMap Command.requested? := by
    have hwritten : (RegisterSlot.answers (Frame.reported sent)).map (·.address) <+:
        (RegisterSlot.answers (Frame.reported all)).map (·.address) :=
      ((Frame.reported_prefix hsent).filter _).map _
    have hreported : (RegisterSlot.answers (Frame.reported all)).map (·.address) <+:
        executed.filterMap Command.requested? := ⟨_, hserves.requests_eq⟩
    have hexecuted : executed <+: commands := ⟨_, hserves.received_eq⟩
    exact (hwritten.trans hreported).trans (hexecuted.filterMap _)
  have hdata : sent.filterMap Frame.data? <+: stay.found.detector.dataFrames commands := by
    have hwritten : sent.filterMap Frame.data? <+: all.filterMap Frame.data? :=
      hsent.filterMap _
    have hmade : all.filterMap Frame.data? =
        if stay.found.readout.mode.sendsData then stay.found.detector.dataFrames executed else [] :=
      hserves.data_eq
    have hreceived : executed ++ (stay.course.outcome stay.found).chip.queue = commands :=
      hserves.received_eq
    refine hwritten.trans ?_
    rw [hmade, ← hreceived, Detector.dataFrames_append]
    split
    · exact List.prefix_append _ _
    · exact List.nil_prefix
  refine ⟨stay.course.handedOver_prefix, hanswers, hdata, fun frame hframe => ?_⟩
  exact Detector.exists_trigger_of_mem_dataFrames (hdata.subset hframe)

/-- The first host asks for a register twice and is gone when one request was executed and the other
is in the queue.  The second host asks for nothing, and the service frame that it gets answers
nothing. -/
theorem answers_of_first_host_are_dropped :
    let readFive : List UInt8 := [0x65, 0x65, 0x6A, 0x6A, 0x96, 0x6A]
    let first : Course :=
      ⟨[.arrive readFive, .handOver, .tick, .arrive readFive, .handOver], .stop⟩
    let second : Course := ⟨[.tick], .stop⟩
    let chip : Chip ChaCha := (Chip.powerOn 0 .serviceOnly (ChaCha.ofSeed 7)).setInterval 2
    let left := (first.outcome chip).chip
    left.queue = [.read ⟨0, 5⟩] ∧ left.readout.pending = [5] ∧
      (second.outcome left).sent.length = 1 ∧
      (RegisterSlot.answers (Frame.reported (second.outcome left).sent)).map (·.address) = [] := by
  intro readFive first second chip left
  have hsecond : { found := left, course := second } ∈ chip.serve [first, second] :=
    List.mem_cons_of_mem _ List.mem_cons_self
  have hanswers := (answers_stay_with_their_host chip [first, second] hsecond).2.1
  refine ⟨?_, ?_, ?_, List.prefix_nil.1 hanswers⟩
  · decide +kernel
  · decide +kernel
  · decide +kernel

/-! ## Hosts that send everything at once -/

/-- The course of a session in which a host sends its commands at once and hangs up. -/
def Course.visit (stream : List UInt8) : Course where
  events := [.tick, .arrive stream]
  ending := .hangUp

/-- A visit is a session like others. -/
lemma Visit.ofStream_eq (chip : Chip G) (stream : List UInt8) :
    (ofStream chip stream).1.greeting ++ (ofStream chip stream).1.answers =
        ((Course.visit stream).outcome chip).sent ∧
      (ofStream chip stream).2 = ((Course.visit stream).outcome chip).chip := by
  refine ⟨?_, rfl⟩
  show ((Session.start chip).step .tick).sent ++
    (((Session.start chip).step .tick).sent ++ _).drop _ = _
  rw [List.drop_left]
  rfl

/-- Visits one after another are the sessions of a service. -/
lemma Visit.ofStreams_eq (chip : Chip G) (streams : List (List UInt8)) :
    (ofStreams chip streams).1.map (fun visit => visit.greeting ++ visit.answers) =
      (chip.serve (streams.map Course.visit)).map (·.session.sent) := by
  induction streams generalizing chip with
  | nil => rfl
  | cons stream streams ih =>
      obtain ⟨hsent, -⟩ := ofStream_eq chip stream
      exact congrArg₂ List.cons hsent (ih ((Course.visit stream).outcome chip).chip)

end PixelChip

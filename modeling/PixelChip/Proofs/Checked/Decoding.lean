import Mathlib.Data.PFun
import PixelChip.Proofs.Checked.Command
import PixelChip.Proofs.Checked.Frame
import PixelChip.Proofs.Link.Conservation

/-!
# No bytes fail a check

A buffer is decoded in rounds, each of which cuts it at a place that the round before found, and a
stream decoder drops bytes from its buffer until an item has arrived.  Both loops stand here with
their checks, and with nothing that says that they end: that each round makes progress is proved and
not built in (`Link.exists_round` and `Link.attempt_cases`).  They are `PFun.fix` of what is done in
one round, and a loop that does not end has no result, as one in which a check fails has none.

What `Link.decode_eq` and `Link.next_eq` say is therefore that the loops end, that no check fails on
the way, wherever in the bytes a round begins, and that channels and stream decoders do the same
without checks.  `no_bytes_fail_a_check` gathers this for both links, with the parsers on which it
rests and the triggers that come out of them.
-/

namespace PixelChip
namespace Checked

open Guarded Channel Dissection StreamDecoder

/-- What decoding calls of the items of a link, with checks. -/
structure Link (β : Type) where
  parse : List UInt8 → Guarded (β × Nat)
  text : β → Option String

/-- The link from the host to the chip. -/
def commandLink : Link RawCommand where
  parse := parseCommand
  text := textCommand

/-- The link from the chip to the host. -/
def frameLink : Link Frame where
  parse := parseFrame
  text := textFrame

/-- A channel with other items in the place of its own. -/
def mapItems {α β : Type} (f : α → β) (channel : Channel α) : Channel β where
  items := channel.items.map f
  skipped := channel.skipped
  bytes := channel.bytes

/-- How far decoding a buffer has come, and the channel so far. -/
structure Progress (β : Type) where
  position : Nat
  channel : Channel β

namespace Link

variable {α β : Type}

/-! ## Loops -/

section Loops

variable (link : Link β)

/-- Takes an item, which is logged with its bytes. -/
def takeItem (src : List UInt8) (progress : Progress β) (item : β) (length : Nat) :
    Option (Progress β) := do
  let _ ← link.text item
  let _ ← slice src progress.position (progress.position + length)
  return { position := progress.position + length, channel := progress.channel.push item }

/-- Skips a byte, which is logged and reported. -/
def skipByte (src : List UInt8) (progress : Progress β) (reason : ParseError) :
    Option (Progress β) := do
  let _ ← slice src progress.position (progress.position + 1)
  let byte ← src[progress.position]?
  return {
    position := progress.position + 1
    channel := { progress.channel with
      skipped := progress.channel.skipped ++ [{ offset := progress.position, byte, reason }] } }

/-- One round of decoding a buffer. -/
def round (src : List UInt8) (progress : Progress β) : Option (Progress β) := do
  let behind ← slice src progress.position src.length
  match ← (link.parse behind).run with
  | .ok (item, length) => link.takeItem src progress item length
  | .error reason => skipByte src progress reason

/-- Rounds up to the end of a buffer. -/
def rounds (src : List UInt8) : Progress β →. Progress β :=
  PFun.fix fun progress =>
    if progress.position < src.length then Part.ofOption ((link.round src progress).map .inr)
    else Part.some (.inl progress)

/-- The channel that a complete buffer decodes to. -/
def decode (src : List UInt8) : Part (Channel β) :=
  (link.rounds src { position := 0, channel := { items := #[], skipped := [], bytes := src } }).map
    Progress.channel

/-- Takes an item out of a decoder, which is logged with its bytes. -/
def deliver (decoder : StreamDecoder α) (item : β) (length : Nat) :
    Option (Option β × StreamDecoder α) := do
  let _ ← link.text item
  let _ ← slice decoder.buffer 0 length
  let rest ← advance decoder.buffer length
  return (some item, { decoder with buffer := rest })

/-- Drops a byte, which is logged. -/
def dropByte (decoder : StreamDecoder α) : Option (StreamDecoder α) := do
  let _ ← slice decoder.buffer 0 1
  let rest ← advance decoder.buffer 1
  return { skipped := decoder.skipped + 1, buffer := rest }

/-- One attempt to take an item from a buffer that is not empty.  It ends with an outcome, or drops
a byte, after which there is another attempt. -/
def attempt (decoder : StreamDecoder α) :
    Option ((Option β × StreamDecoder α) ⊕ StreamDecoder α) := do
  match ← (link.parse decoder.buffer).run with
  | .ok (item, length) =>
    let outcome ← link.deliver decoder item length
    return .inl outcome
  | .error cause =>
    if cause.isTruncated then return .inl (none, decoder)
    else
      let decoder ← dropByte decoder
      return .inr decoder

/-- The next item, if one has arrived completely. -/
def next : StreamDecoder α →. Option β × StreamDecoder α :=
  PFun.fix fun decoder =>
    if decoder.buffer.isEmpty then Part.some (.inl (none, decoder))
    else Part.ofOption (link.attempt decoder)

/-- The next item at the end of the stream. -/
def finish (decoder : StreamDecoder α) : Part (Option β × StreamDecoder α) :=
  (link.next decoder).map fun
    | (some item, rest) => (some item, rest)
    | (none, rest) => (none, { skipped := rest.skipped + rest.buffer.length, buffer := [] })

variable {link}

lemma rounds_at_end {src : List UInt8} {progress : Progress β}
    (hposition : ¬progress.position < src.length) :
    link.rounds src progress = Part.some progress := by
  refine Part.eq_some_iff.2 (PFun.fix_stop ?_)
  rw [if_neg hposition]
  exact Part.mem_some _

lemma rounds_of_round {src : List UInt8} {progress next : Progress β}
    (hposition : progress.position < src.length)
    (hround : link.round src progress = some next) :
    link.rounds src progress = link.rounds src next := by
  refine PFun.fix_fwd_eq ?_
  rw [if_pos hposition, hround]
  exact Part.mem_some _

lemma next_of_empty {decoder : StreamDecoder α} (hbuffer : decoder.buffer = []) :
    link.next decoder = Part.some (none, decoder) := by
  refine Part.eq_some_iff.2 (PFun.fix_stop ?_)
  rw [if_pos (List.isEmpty_iff.2 hbuffer)]
  exact Part.mem_some _

lemma next_of_attempt {decoder : StreamDecoder α}
    {outcome : (Option β × StreamDecoder α) ⊕ StreamDecoder α} (hbuffer : decoder.buffer ≠ [])
    (hattempt : link.attempt decoder = some outcome) :
    link.next decoder = outcome.elim Part.some link.next := by
  have hempty : ¬decoder.buffer.isEmpty := fun h => hbuffer (List.isEmpty_iff.1 h)
  cases outcome with
  | inl outcome =>
      refine Part.eq_some_iff.2 (PFun.fix_stop ?_)
      rw [if_neg hempty, hattempt]
      exact Part.mem_some _
  | inr rest =>
      refine PFun.fix_fwd_eq ?_
      rw [if_neg hempty, hattempt]
      exact Part.mem_some _

end Loops

/-- The items of a link can be parsed and described without a failed check. -/
structure Lawful (raw : α → β) (link : Link β) [Packet α] : Prop where
  sound : Sound raw link.parse Packet.parse
  text_eq : ∀ item : α, link.text (raw item) = some (Packet.text item)

lemma lawful_commandLink : commandLink.Lawful Command.raw :=
  ⟨sound_parseCommand, textCommand_raw⟩

lemma lawful_frameLink : frameLink.Lawful (id : Frame → Frame) :=
  ⟨sound_parseFrame, textFrame_eq⟩

variable [Packet α] {raw : α → β} {link : Link β}

/-! ## A buffer decoded at once -/

section Buffer

variable {src : List UInt8} {progress : Progress β}

lemma slice_to_end {position : Nat} (h : position ≤ src.length) :
    slice src position src.length = some (src.drop position) := by
  have hall : (src.drop position).length ≤ src.length - position := by rw [List.length_drop]
  rw [slice_eq h (Nat.le_refl _), List.take_of_length_le hall]

/-- An item is taken, and lies inside of the buffer. -/
lemma round_of_parse_ok (h : link.Lawful raw) (progress : Progress β)
    (hposition : progress.position < src.length) {item : α} {n : Nat}
    (hparse : Packet.parse (src.drop progress.position) = .ok (item, n)) :
    link.round src progress = some
      { position := progress.position + n, channel := progress.channel.push (raw item) } ∧
      1 ≤ n ∧ progress.position + n ≤ src.length := by
  obtain ⟨hrun, hpos, hle⟩ := h.sound.of_parse_ok hparse
  have hlength : progress.position + n ≤ src.length := by
    rw [List.length_drop] at hle
    omega
  refine ⟨?_, hpos, hlength⟩
  rw [round, slice_to_end (Nat.le_of_lt hposition), Option.bind_eq_bind, Option.bind_some, hrun]
  show link.takeItem src progress (raw item) n = _
  rw [takeItem, h.text_eq, slice_eq (Nat.le_add_right _ _) hlength]
  rfl

/-- A byte is skipped that is there. -/
lemma round_of_parse_error (h : link.Lawful raw) (progress : Progress β)
    (hposition : progress.position < src.length) {reason : ParseError}
    (hparse : Packet.parse (α := α) (src.drop progress.position) = .error reason) :
    link.round src progress = some
      { position := progress.position + 1
        channel := { progress.channel with
          skipped := progress.channel.skipped ++
            [⟨progress.position, src[progress.position], reason⟩] } } := by
  rw [round, slice_to_end (Nat.le_of_lt hposition), Option.bind_eq_bind, Option.bind_some,
    h.sound.of_parse_error hparse]
  show skipByte src progress reason = _
  rw [skipByte, slice_eq (Nat.le_succ _) hposition, List.getElem?_eq_getElem hposition]
  rfl

/-- **Every round makes progress** and stays inside of the buffer. -/
theorem exists_round (h : link.Lawful raw) (hposition : progress.position < src.length) :
    ∃ next, link.round src progress = some next ∧
      progress.position < next.position ∧ next.position ≤ src.length := by
  cases hparse : Packet.parse (α := α) (src.drop progress.position) with
  | ok parsed =>
      obtain ⟨hround, hpos, hlength⟩ := round_of_parse_ok h progress hposition hparse
      exact ⟨_, hround, Nat.lt_add_of_pos_right hpos, hlength⟩
  | error reason =>
      exact ⟨_, round_of_parse_error h progress hposition hparse, Nat.lt_succ_self _, hposition⟩

/-- The rounds end, and collect what the buffer decodes to from their first place on. -/
lemma rounds_eq [LawfulPacket α] (h : link.Lawful raw) (src behind : List UInt8)
    {position : Nat} (hposition : position ≤ src.length) (hbehind : src.drop position = behind)
    (channel : Channel β) :
    link.rounds src { position, channel } = Part.some
      { position := src.length
        channel :=
          { items := channel.items ++ ((decoded behind).map raw).toArray
            skipped := channel.skipped ++ skippedFrom α position behind
            bytes := channel.bytes } } := by
  -- Along the bytes behind the position, which no round moves out of the buffer.
  induction behind using bufferInduction (α := α) generalizing position channel with
  | nil =>
      have hend : position = src.length :=
        Nat.le_antisymm hposition (List.drop_eq_nil_iff.1 hbehind)
      rw [rounds_at_end (Nat.not_lt.2 hend.ge), decoded_nil, hend]
      simp [skippedFrom]
  | item behind item n hne hparse ih =>
      subst hbehind
      have hlt : position < src.length := List.length_lt_of_drop_ne_nil hne
      obtain ⟨hround, -, hlength⟩ := round_of_parse_ok h { position, channel } hlt hparse
      rw [rounds_of_round hlt hround, ih hlength (List.drop_drop ..).symm,
        (decoded_of_parse_ok hne hparse).1, skippedFrom_of_parse_ok position hne hparse]
      simp [Channel.push]
  | skip byte rest reason hparse ih =>
      have hlt : position < src.length :=
        List.length_lt_of_drop_ne_nil (hbehind ▸ List.cons_ne_nil byte rest)
      have hcons := hbehind
      rw [List.drop_eq_getElem_cons hlt, List.cons.injEq] at hcons
      obtain ⟨hbyte, hrest⟩ := hcons
      have hround := round_of_parse_error h { position, channel } hlt (hbehind ▸ hparse)
      rw [rounds_of_round hlt hround, ih hlt hrest, (decoded_of_parse_error hparse).1,
        skippedFrom_of_parse_error position hparse]
      simp [hbyte]

/-- **A buffer is decoded** without a failed check, to the channel of `Channel.ofBytes`. -/
theorem decode_eq [LawfulPacket α] (h : link.Lawful raw) (src : List UInt8) :
    link.decode src = Part.some (mapItems raw (Channel.ofBytes src)) := by
  rw [decode, rounds_eq h src src (Nat.zero_le _) List.drop_zero, Part.map_some]
  simp [mapItems, decoded, skippedFrom, Channel.ofBytes]

end Buffer

/-! ## A stream -/

section Stream

variable {decoder : StreamDecoder α}

/-- **Every attempt** hands out an item, waits for more bytes, or drops a byte.  The buffer becomes
shorter unless the decoder waits. -/
theorem attempt_cases (h : link.Lawful raw) (decoder : StreamDecoder α)
    (hbuffer : decoder.buffer ≠ []) :
    (∃ item n, Packet.parse decoder.buffer = .ok (item, n) ∧ 1 ≤ n ∧ n ≤ decoder.buffer.length ∧
      link.attempt decoder =
        some (.inl (some (raw item), { decoder with buffer := decoder.buffer.drop n }))) ∨
    (∃ cause, Packet.parse (α := α) decoder.buffer = .error cause ∧ cause.isTruncated = true ∧
      link.attempt decoder = some (.inl (none, decoder))) ∨
    (∃ cause, Packet.parse (α := α) decoder.buffer = .error cause ∧ cause.isTruncated = false ∧
      link.attempt decoder =
        some (.inr { skipped := decoder.skipped + 1, buffer := decoder.buffer.drop 1 })) := by
  have hone : 1 ≤ decoder.buffer.length := List.length_pos_iff.2 hbuffer
  cases hparse : Packet.parse (α := α) decoder.buffer with
  | ok parsed =>
      obtain ⟨item, n⟩ := parsed
      obtain ⟨hrun, hpos, hle⟩ := h.sound.of_parse_ok hparse
      refine .inl ⟨item, n, rfl, hpos, hle, ?_⟩
      have hdeliver : link.deliver decoder (raw item) n =
          some (some (raw item), { decoder with buffer := decoder.buffer.drop n }) := by
        rw [deliver, h.text_eq, slice_eq (Nat.zero_le _) hle, advance_eq hle]
        rfl
      rw [attempt, hrun]
      show (link.deliver decoder (raw item) n).bind _ = _
      rw [hdeliver]
      rfl
  | error cause =>
      have hrun := h.sound.of_parse_error hparse
      cases htruncated : cause.isTruncated with
      | true =>
          refine .inr (.inl ⟨cause, rfl, htruncated, ?_⟩)
          rw [attempt, hrun]
          exact if_pos htruncated
      | false =>
          refine .inr (.inr ⟨cause, rfl, htruncated, ?_⟩)
          have hdrop : dropByte decoder =
              some { skipped := decoder.skipped + 1, buffer := decoder.buffer.drop 1 } := by
            rw [dropByte, slice_eq (Nat.zero_le _) hone, advance_eq hone]
            rfl
          rw [attempt, hrun]
          show (if cause.isTruncated then _ else (dropByte decoder).bind _) = _
          rw [htruncated, hdrop]
          rfl

/-- **A decoder is asked for an item** without a failed check, and answers as `StreamDecoder.next`
does. -/
theorem next_eq [LawfulPacket α] (h : link.Lawful raw) (decoder : StreamDecoder α) :
    link.next decoder = Part.some (Prod.map (Option.map raw) id decoder.next) := by
  obtain ⟨skipped, src⟩ := decoder
  induction src using bufferInduction (α := α) generalizing skipped with
  | nil => exact next_of_empty rfl
  | item src item n hne hparse _ =>
      obtain ⟨item', n', hparse', -, -, hattempt⟩ | ⟨cause, herror, -⟩ | ⟨cause, herror, -⟩ :=
        attempt_cases h { skipped, buffer := src } hne
      · obtain ⟨rfl, rfl⟩ := Prod.mk.inj (Except.ok.inj (hparse.symm.trans hparse'))
        rw [next_of_attempt hne hattempt, StreamDecoder.next_of_parse_ok hne hparse]
        rfl
      · exact absurd (hparse.symm.trans herror) nofun
      · exact absurd (hparse.symm.trans herror) nofun
  | skip byte rest reason hparse ih =>
      -- A buffer that is skipped at its end may be the beginning of an item, on which we wait here.
      have hne := List.cons_ne_nil byte rest
      obtain ⟨item, n, hok, -⟩ | ⟨cause, herror, htruncated, hattempt⟩ |
          ⟨cause, herror, htruncated, hattempt⟩ :=
        attempt_cases h { skipped, buffer := byte :: rest } hne
      · exact absurd (hparse.symm.trans hok) nofun
      · have hpending : isPending (Packet.parse (α := α) (byte :: rest)) = true := by
          rw [show Packet.parse (α := α) (byte :: rest) = _ from herror]
          exact htruncated
        rw [next_of_attempt hne hattempt, StreamDecoder.next_of_isPending hne hpending]
        rfl
      · rw [next_of_attempt hne hattempt, StreamDecoder.next_of_parse_error herror htruncated]
        exact ih (skipped + 1)

theorem finish_eq [LawfulPacket α] (h : link.Lawful raw) (decoder : StreamDecoder α) :
    link.finish decoder = Part.some (Prod.map (Option.map raw) id decoder.finish) := by
  rw [finish, next_eq h, Part.map_some, StreamDecoder.finish]
  obtain ⟨item, rest⟩ := decoder.next
  cases item <;> rfl

/-- **An attempt never fails a check**, and unless the decoder waits, the buffer becomes shorter. -/
theorem exists_attempt (h : link.Lawful raw) (hbuffer : decoder.buffer ≠ []) :
    ∃ outcome, link.attempt decoder = some outcome ∧
      (outcome = .inl (none, decoder) ∨
        (outcome.elim Prod.snd id).buffer.length < decoder.buffer.length) := by
  have hshorter : ∀ n, 1 ≤ n → (decoder.buffer.drop n).length < decoder.buffer.length := by
    intro n hpos
    have hlength := List.length_pos_iff.2 hbuffer
    rw [List.length_drop]
    omega
  obtain ⟨item, n, -, hpos, -, hattempt⟩ | ⟨cause, -, -, hattempt⟩ | ⟨cause, -, -, hattempt⟩ :=
    attempt_cases h decoder hbuffer
  · exact ⟨_, hattempt, .inr (hshorter n hpos)⟩
  · exact ⟨_, hattempt, .inl rfl⟩
  · exact ⟨_, hattempt, .inr (hshorter 1 (Nat.le_refl 1))⟩

end Stream

/-- **Decoding is safe.**  No check fails in either loop, both make progress and end, and the checks
change nothing.  Places and counts stay below the number of bytes: a round ends inside of the
buffer, and what a stream decoder has skipped and what it still holds are no more than before. -/
structure Safe (raw : α → β) (link : Link β) [Packet α] : Prop where
  exists_round : ∀ (src : List UInt8) (progress : Progress β), progress.position < src.length →
    ∃ next, link.round src progress = some next ∧
      progress.position < next.position ∧ next.position ≤ src.length
  decode_eq : ∀ src, link.decode src = Part.some (mapItems raw (Channel.ofBytes src))
  exists_attempt : ∀ decoder : StreamDecoder α, decoder.buffer ≠ [] →
    ∃ outcome, link.attempt decoder = some outcome ∧
      (outcome = .inl (none, decoder) ∨
        (outcome.elim Prod.snd id).buffer.length < decoder.buffer.length)
  next_eq : ∀ decoder : StreamDecoder α,
    link.next decoder = Part.some (Prod.map (Option.map raw) id decoder.next)
  finish_eq : ∀ decoder : StreamDecoder α,
    link.finish decoder = Part.some (Prod.map (Option.map raw) id decoder.finish)
  held_le : ∀ decoder : StreamDecoder α, ∀ outcome ∈ [decoder.next, decoder.finish],
    outcome.2.skipped + outcome.2.buffer.length ≤ decoder.skipped + decoder.buffer.length

lemma Lawful.safe [UniformPacket α] (h : link.Lawful raw) : link.Safe raw where
  exists_round _ _ := Link.exists_round h
  decode_eq := Link.decode_eq h
  exists_attempt _ := Link.exists_attempt h
  next_eq := Link.next_eq h
  finish_eq := Link.finish_eq h
  held_le decoder outcome houtcome := by
    have hconserves : decoder.Conserves outcome := by
      simp only [List.mem_cons, List.not_mem_nil, or_false] at houtcome
      obtain rfl | rfl := houtcome
      · exact decoder.conserves_next
      · exact decoder.conserves_finish
    rw [← hconserves, Nat.add_assoc]
    exact Nat.le_add_left _ _

end Link

/-! ## Triggers -/

namespace RawTrigger

/-- The triggers that there are: made by the checking constructor, by a parser, or by a loop that
calls one. -/
inductive Made : RawTrigger → Prop
  | checked {crossings tag : UInt8} {trigger : RawTrigger}
      (h : RawTrigger.checked crossings tag = .ok trigger) : Made trigger
  | variant {src : List UInt8} {trigger : RawTrigger} {n : Nat}
      (h : (parseTrigger src).run = some (.ok (trigger, n))) : Made trigger
  | command {src : List UInt8} {trigger : RawTrigger} {n : Nat}
      (h : (parseCommand src).run = some (.ok (.trigger trigger, n))) : Made trigger
  | buffer {src : List UInt8} {channel : Channel RawCommand} {trigger : RawTrigger}
      (h : channel ∈ commandLink.decode src)
      (hmem : .trigger trigger ∈ channel.items.toList) : Made trigger
  | stream {decoder rest : StreamDecoder Command} {trigger : RawTrigger}
      (h : (some (.trigger trigger), rest) ∈ commandLink.next decoder) : Made trigger
  | endOfStream {decoder rest : StreamDecoder Command} {trigger : RawTrigger}
      (h : (some (.trigger trigger), rest) ∈ commandLink.finish decoder) : Made trigger

variable {trigger : RawTrigger}

lemma exists_of_raw {command : Command} (h : command.raw = .trigger trigger) :
    ∃ trigger' : Trigger, trigger'.raw = trigger := by
  cases command with
  | trigger trigger' => exact ⟨trigger', RawCommand.trigger.inj h⟩
  | _ => exact absurd h nofun

/-- **What is made is a trigger** with all that is known of one. -/
theorem Made.exists_raw (h : trigger.Made) : ∃ trigger' : Trigger, trigger'.raw = trigger := by
  have hlink : commandLink.Safe Command.raw := Link.lawful_commandLink.safe
  have hoption : ∀ {outcome : Option Command × StreamDecoder Command}
      {rest : StreamDecoder Command},
      (some (.trigger trigger), rest) ∈
          Part.some (Prod.map (Option.map Command.raw) id outcome) →
        ∃ trigger' : Trigger, trigger'.raw = trigger := by
    intro outcome rest houtcome
    obtain ⟨command, -, hraw⟩ :=
      Option.map_eq_some_iff.1 (Prod.mk.inj (Part.mem_some_iff.1 houtcome)).1.symm
    exact exists_of_raw hraw
  cases h with
  | @checked crossings tag _ h =>
      rw [RawTrigger.checked_eq] at h
      cases hchecked : Trigger.checked crossings tag with
      | error cause =>
          rw [hchecked] at h
          exact absurd h nofun
      | ok trigger' =>
          rw [hchecked] at h
          exact ⟨trigger', Except.ok.inj h⟩
  | variant h =>
      obtain ⟨trigger', -, hraw⟩ := sound_parseTrigger.exists_of_run h
      exact ⟨trigger', hraw⟩
  | command h =>
      obtain ⟨command, -, hraw⟩ := sound_parseCommand.exists_of_run h
      exact exists_of_raw hraw
  | buffer h hmem =>
      rw [hlink.decode_eq] at h
      obtain rfl := Part.mem_some_iff.1 h
      rw [mapItems, Array.toList_map] at hmem
      obtain ⟨command, -, hraw⟩ := List.mem_map.1 hmem
      exact exists_of_raw hraw
  | stream h =>
      rw [hlink.next_eq] at h
      exact hoption h
  | endOfStream h =>
      rw [hlink.finish_eq] at h
      exact hoption h

end RawTrigger

/-! ## Both links -/

/-- **No bytes fail a check.**  On any bytes the parsers of commands, of each variant, of register
frames and of frames take no byte that is not there, and what they find is at least one byte long
and no longer than the buffer.  So both loops are safe, on either link.  Every trigger that is made
has one of the bitmaps 1 to 15, so that its pattern is in the table, when it is written as well as
when it is described.  Every command can be written and described. -/
theorem no_bytes_fail_a_check :
    (Sound id parsePulse Pulse.parse ∧ Sound id parseCal Cal.parse ∧
      Sound id parseRead RegisterRead.parse ∧ Sound id parseWrite RegisterWrite.parse ∧
      Sound Trigger.raw parseTrigger Trigger.parse ∧
      List.Forall₂ (Sound Command.raw) parsers Command.parsers ∧
      Sound Command.raw parseCommand Command.parse) ∧
    ((∀ src, Settles (parseRegisterFrame src) (RegisterFrame.parse src) fun _ => 8 ≤ src.length) ∧
      Sound id parseFrame Frame.parse) ∧
    (commandLink.Safe Command.raw ∧ frameLink.Safe (id : Frame → Frame)) ∧
    (∀ trigger : RawTrigger, trigger.Made →
      1 ≤ trigger.crossings.toNat ∧ trigger.crossings.toNat ≤ 15 ∧ trigger.pattern.isSome ∧
      (encodeCommand (.trigger trigger)).isSome ∧ (textCommand (.trigger trigger)).isSome) ∧
    ∀ command : Command, encodeCommand command.raw = some command.encode ∧
      textCommand command.raw = some command.text := by
  refine ⟨⟨sound_parsePulse, sound_parseCal, sound_parseRead, sound_parseWrite, sound_parseTrigger,
    sound_parsers, sound_parseCommand⟩, ⟨settles_parseRegisterFrame, sound_parseFrame⟩,
    ⟨Link.lawful_commandLink.safe, Link.lawful_frameLink.safe⟩, ?_,
    fun command => ⟨encodeCommand_raw command, textCommand_raw command⟩⟩
  intro trigger hmade
  obtain ⟨trigger', rfl⟩ := hmade.exists_raw
  have hpattern : trigger'.raw.pattern.isSome := by
    rw [RawTrigger.pattern_raw]
    rfl
  have hencode : encodeCommand (.trigger trigger'.raw) = _ := encodeCommand_raw (.trigger trigger')
  have htext : textCommand (.trigger trigger'.raw) = _ := textCommand_raw (.trigger trigger')
  obtain ⟨hpos, hle⟩ := trigger'.raw.isSome_pattern_iff.1 hpattern
  refine ⟨hpos, hle, hpattern, ?_, ?_⟩
  · rw [hencode]
    rfl
  · rw [htext]
    rfl

/-- An extended write of which only eight bytes have arrived, and a trigger behind it.  All bytes of
the write are skipped, one in each round, before the trigger is found. -/
theorem no_bytes_fail_a_check_of_cut_write :
    let src : List UInt8 := [0x66, 0x66, 0x6C, 0x6A, 0x6A, 0x6A, 0x6A, 0x6A, 0x56, 0xD4]
    let trigger : RawTrigger := { crossings := 15, tag := 31 }
    (∃ channel ∈ commandLink.decode src, channel.skipped.length = 8 ∧
      .trigger trigger ∈ channel.items.toList) ∧
    trigger.Made ∧ trigger.crossings.toNat ≤ 15 ∧
      encodeCommand (.trigger trigger) = some [0x56, 0xD4] := by
  intro src trigger
  obtain ⟨-, -, ⟨hlink, -⟩, htriggers, -⟩ := no_bytes_fail_a_check
  have hmem : .trigger trigger ∈ (mapItems Command.raw (Channel.ofBytes src)).items.toList := by
    decide +kernel
  have hdecoded := Part.eq_some_iff.1 (hlink.decode_eq src)
  have hmade : trigger.Made := .buffer hdecoded hmem
  obtain ⟨-, hle, -⟩ := htriggers trigger hmade
  exact ⟨⟨_, hdecoded, by decide +kernel, hmem⟩, hmade, hle, by decide⟩

end Checked
end PixelChip

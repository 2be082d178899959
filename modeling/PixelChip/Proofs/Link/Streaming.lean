import PixelChip.Link.StreamDecoder
import PixelChip.Proofs.Link.Decoding

/-!
# Decoding a stream and decoding a buffer

A stream decoder stops where the beginning of an item is left, and a channel skips there.  Up to
that point they do the same: `drain_agrees` is the simulation of one by the other.

Bytes that arrive later do not change what was decided without them, so that taking an item before
they arrive or after makes no difference (`drain_feed_of_next`).  From that one step follows what
a whole schedule of arrivals and calls delivers: what one call behind all arrivals would
(`delivery_eq_drain`), and so nothing that depends on the schedule.
-/

namespace PixelChip
namespace StreamDecoder

open Channel

variable {α : Type} [Packet α]

/-! ## Draining step by step -/

lemma drain_eq (decoder : StreamDecoder α) :
    decoder.drain =
      match decoder.next with
      | (some item, rest) => (item :: rest.drain.1, rest.drain.2)
      | (none, rest) => ([], rest) := by
  rw [drain]
  split
  · next item rest h => simp only [h]
  · next rest h => simp only [h]

lemma drain_of_next_some {decoder rest : StreamDecoder α} {item : α}
    (h : decoder.next = (some item, rest)) :
    decoder.drain = (item :: rest.drain.1, rest.drain.2) := by
  rw [drain_eq, h]

lemma drain_of_next_none {decoder rest : StreamDecoder α} (h : decoder.next = (none, rest)) :
    decoder.drain = ([], rest) := by
  rw [drain_eq, h]

lemma drain_nil (skipped : Nat) :
    drain (α := α) { skipped, buffer := [] } = ([], { skipped, buffer := [] }) :=
  drain_of_next_none rfl

/-- Where an item parses, it is taken. -/
lemma next_of_parse_ok [LawfulPacket α] {skipped n : Nat} {src : List UInt8} {item : α}
    (hsrc : src ≠ []) (hparse : Packet.parse src = .ok (item, n)) :
    next { skipped, buffer := src } = (some item, { skipped, buffer := src.drop n }) := by
  obtain _ | ⟨byte, rest⟩ := src
  · exact absurd rfl hsrc
  · obtain ⟨n, rfl⟩ := Nat.exists_eq_succ_of_ne_zero (Nat.ne_of_gt (LawfulPacket.length_pos hparse))
    simp only [next, scan, hparse]
    rfl

/-- At the beginning of an item the decoder waits. -/
lemma next_of_isPending {skipped : Nat} {src : List UInt8} (hsrc : src ≠ [])
    (hpending : isPending (Packet.parse (α := α) src) = true) :
    next (α := α) { skipped, buffer := src } = (none, { skipped, buffer := src }) := by
  obtain _ | ⟨byte, rest⟩ := src
  · exact absurd rfl hsrc
  · cases hparse : Packet.parse (α := α) (byte :: rest) with
    | ok parsed =>
        rw [hparse] at hpending
        exact absurd hpending (by simp)
    | error reason =>
        rw [hparse, isPending_error] at hpending
        simp only [next, scan, hparse, hpending, if_true]

/-- Where nothing starts, a byte is skipped. -/
lemma next_of_parse_error {skipped : Nat} {byte : UInt8} {rest : List UInt8} {reason : ParseError}
    (hparse : Packet.parse (α := α) (byte :: rest) = .error reason)
    (hreason : reason.isTruncated = false) :
    next (α := α) { skipped, buffer := byte :: rest } =
      next { skipped := skipped + 1, buffer := rest } := by
  simp only [next, scan, hparse, hreason, Bool.false_eq_true, if_false]

lemma drain_of_parse_error {skipped : Nat} {byte : UInt8} {rest : List UInt8}
    {reason : ParseError} (hparse : Packet.parse (α := α) (byte :: rest) = .error reason)
    (hreason : reason.isTruncated = false) :
    drain (α := α) { skipped, buffer := byte :: rest } =
      drain { skipped := skipped + 1, buffer := rest } := by
  rw [drain_eq, next_of_parse_error hparse hreason, ← drain_eq]

/-! ## The buffer decoded at once -/

/-- What a stream decoder delivered and kept of a stream, against decoding the stream at once. -/
structure Agrees (src : List UInt8) (items : List α) (skipped : Nat) (last : StreamDecoder α) :
    Prop where
  /-- The items are the first, and those that the kept bytes decode to are the others. -/
  items_eq : decoded src = items ++ decoded last.buffer
  /-- The skipped bytes were counted on top of what had been skipped before. -/
  skipped_eq : skipped + skippedCount α src = last.skipped + skippedCount α last.buffer
  suffix : last.buffer <:+ src
  /-- Nothing is kept but the beginning of an item. -/
  kept : last.buffer = [] ∨ isPending (Packet.parse (α := α) last.buffer) = true

/-- **A stream decoder simulates a channel** up to the beginning of an item. -/
theorem drain_agrees [LawfulPacket α] (skipped : Nat) (src : List UInt8) :
    Agrees src (drain (α := α) { skipped, buffer := src }).1 skipped
      (drain { skipped, buffer := src }).2 := by
  induction src using bufferInduction (α := α) generalizing skipped with
  | nil =>
      rw [drain_nil]
      exact ⟨rfl, rfl, List.suffix_refl [], .inl rfl⟩
  | item src item n hsrc hparse ih =>
      have hrest := ih skipped
      have hstep := decoded_of_parse_ok hsrc hparse
      rw [drain_of_next_some (next_of_parse_ok hsrc hparse)]
      refine ⟨?_, ?_, hrest.suffix.trans (List.drop_suffix n src), hrest.kept⟩
      · rw [hstep.1, hrest.items_eq]
        rfl
      · rw [hstep.2, hrest.skipped_eq]
  | skip byte rest reason hparse ih =>
      cases hreason : reason.isTruncated with
      | true =>
          have hpending : isPending (Packet.parse (α := α) (byte :: rest)) = true := by
            rw [hparse, isPending_error, hreason]
          rw [drain_of_next_none (next_of_isPending (List.cons_ne_nil byte rest) hpending)]
          exact ⟨rfl, rfl, List.suffix_refl _, .inr hpending⟩
      | false =>
          have hrest := ih (skipped + 1)
          have hstep := decoded_of_parse_error hparse
          rw [drain_of_parse_error hparse hreason]
          refine ⟨?_, ?_, hrest.suffix.trans (List.suffix_cons byte rest), hrest.kept⟩
          · rw [hstep.1, hrest.items_eq]
          · rw [hstep.2, ← hrest.skipped_eq]
            omega

/-! ## Schedules -/

/-- What happens to a stream decoder: bytes arrive, or the next item is asked for. -/
inductive Event where
  | arrive (bytes : List UInt8)
  | decode

/-- All bytes that arrive, in order. -/
def arrived : List Event → List UInt8
  | [] => []
  | .arrive bytes :: events => bytes ++ arrived events
  | .decode :: events => arrived events

/-- What the calls of a schedule deliver, and the decoder behind them. -/
def serve (decoder : StreamDecoder α) : List Event → List α × StreamDecoder α
  | [] => ([], decoder)
  | .arrive bytes :: events => (decoder.feed bytes).serve events
  | .decode :: events =>
    let (item?, rest) := decoder.next
    let (items, last) := rest.serve events
    (item?.toList ++ items, last)

/-- What a schedule delivers when calls follow until one yields nothing. -/
def delivery (decoder : StreamDecoder α) (events : List Event) : List α × StreamDecoder α :=
  let (items, rest) := decoder.serve events
  let (others, last) := rest.drain
  (items ++ others, last)

/-- Taking an item first, or when more bytes have arrived, is the same. -/
lemma drain_feed_of_next [LawfulPacket α] (decoder : StreamDecoder α) (later : List UInt8) :
    (decoder.feed later).drain =
      (decoder.next.1.toList ++ (decoder.next.2.feed later).drain.1,
        (decoder.next.2.feed later).drain.2) := by
  obtain ⟨skipped, src⟩ := decoder
  induction src using bufferInduction (α := α) generalizing skipped with
  | nil => rfl
  | item src item n hsrc hparse ih =>
      have hlater : Packet.parse (src ++ later) = .ok (item, n) := by
        rw [LawfulPacket.parse_append hsrc (by rw [hparse]; rfl), hparse]
      rw [next_of_parse_ok hsrc hparse]
      simp only [feed]
      rw [drain_of_next_some (next_of_parse_ok (by simp [hsrc]) hlater),
        List.drop_append_of_le_length (LawfulPacket.length_le hparse)]
      rfl
  | skip byte rest reason hparse ih =>
      cases hreason : reason.isTruncated with
      | true =>
          have hpending : isPending (Packet.parse (α := α) (byte :: rest)) = true := by
            rw [hparse, isPending_error, hreason]
          rw [next_of_isPending (List.cons_ne_nil byte rest) hpending]
          rfl
      | false =>
          -- no byte that arrives later turns the skipped one into the start of an item
          have hfinal : isPending (Packet.parse (α := α) (byte :: rest)) = false := by
            rw [hparse, isPending_error, hreason]
          have hlater : Packet.parse (α := α) (byte :: (rest ++ later)) = .error reason := by
            rw [← List.cons_append, LawfulPacket.parse_append (List.cons_ne_nil byte rest) hfinal,
              hparse]
          have hrest := ih (skipped + 1)
          rw [next_of_parse_error hparse hreason, ← hrest]
          exact drain_of_parse_error hlater hreason

omit [Packet α] in
lemma feed_feed (decoder : StreamDecoder α) (bytes later : List UInt8) :
    (decoder.feed bytes).feed later = decoder.feed (bytes ++ later) := by
  simp only [feed, List.append_assoc]

/-- Along a schedule: the calls deliver what one drain behind all arrivals would. -/
lemma delivery_eq_drain [LawfulPacket α] (decoder : StreamDecoder α) (events : List Event) :
    decoder.delivery events = (decoder.feed (arrived events)).drain := by
  induction events generalizing decoder with
  | nil =>
      simp only [delivery, serve, arrived, feed, List.append_nil, List.nil_append]
  | cons event events ih =>
      cases event with
      | arrive bytes =>
          have hrest := ih (decoder.feed bytes)
          rw [feed_feed] at hrest
          exact hrest
      | decode =>
          have hrest := ih decoder.next.2
          have hnext := drain_feed_of_next decoder (arrived events)
          rw [arrived, hnext, ← hrest]
          simp only [delivery, serve, List.append_assoc]

/-! ## Commands and frames -/

/-- A buffer that is too short for a frame holds none. -/
lemma decoded_frame_of_length_lt {src : List UInt8} (h : src.length < 8) :
    decoded (α := Frame) src = [] := by
  induction src with
  | nil => rfl
  | cons byte rest ih =>
      have hparse := Frame.parse_of_length_lt (List.cons_ne_nil byte rest) h
      rw [(decoded_of_parse_error (α := Frame) hparse).1]
      exact ih (Nat.lt_of_succ_lt h)

/-- **The stream decoders refine the buffer decoders.**  What a fresh decoder delivers of a stream,
and what its remaining bytes decode to, is what a channel decodes the stream to, and the skipped
bytes are as many.  The remaining bytes are the end of the stream and shorter than the longest
command, or than a frame, so that those that remain of frames hold none. -/
theorem drain_refines (src : List UInt8) :
    (∃ (items : List Command) (last : StreamDecoder Command),
      (empty.feed src).drain = (items, last) ∧
        decoded src = items ++ decoded last.buffer ∧
        skippedCount Command src = last.skipped + skippedCount Command last.buffer ∧
        last.buffer <:+ src ∧ last.buffer.length < 24) ∧
    ∃ (items : List Frame) (last : StreamDecoder Frame),
      (empty.feed src).drain = (items, last) ∧
        decoded src = items ++ decoded last.buffer ∧
        skippedCount Frame src = last.skipped + skippedCount Frame last.buffer ∧
        last.buffer <:+ src ∧ last.buffer.length < 8 ∧ decoded (α := Frame) last.buffer = [] := by
  refine ⟨?_, ?_⟩
  · have hagrees := drain_agrees (α := Command) 0 src
    have hskipped := hagrees.skipped_eq
    rw [Nat.zero_add] at hskipped
    refine ⟨_, _, rfl, hagrees.items_eq, hskipped, hagrees.suffix, ?_⟩
    obtain hempty | hpending := hagrees.kept
    · exact lt_of_eq_of_lt (congrArg List.length hempty) (by decide)
    · exact Command.length_lt_of_isPending hpending
  · have hagrees := drain_agrees (α := Frame) 0 src
    have hskipped := hagrees.skipped_eq
    rw [Nat.zero_add] at hskipped
    have hlength : (drain (α := Frame) { skipped := 0, buffer := src }).2.buffer.length < 8 := by
      obtain hempty | hpending := hagrees.kept
      · exact lt_of_eq_of_lt (congrArg List.length hempty) (by decide)
      · exact Frame.length_lt_of_isPending hpending
    exact ⟨_, _, rfl, hagrees.items_eq, hskipped, hagrees.suffix, hlength,
      decoded_frame_of_length_lt hlength⟩

/-- **Decoding does not depend on how bytes arrive.**  Two schedules in which the same bytes arrive
deliver the same items and leave the same count of skipped bytes and the same remaining bytes. -/
theorem delivery_eq_of_arrived_eq {first second : List Event} (h : arrived first = arrived second) :
    delivery (α := Command) empty first = delivery empty second ∧
      delivery (α := Frame) empty first = delivery empty second := by
  refine ⟨?_, ?_⟩
  · rw [delivery_eq_drain, delivery_eq_drain, h]
  · rw [delivery_eq_drain, delivery_eq_drain, h]

/-- A pulse behind a byte that is skipped arrives in two pieces, with a call between them, and at
once. -/
theorem delivery_of_pieces :
    arrived [.arrive [0x00, 0x5C, 0x5C], .decode, .arrive [], .arrive [0x71, 0x93]] =
        arrived [.arrive [0x00, 0x5C, 0x5C, 0x71, 0x93]] ∧
      delivery (α := Command) empty
          [.arrive [0x00, 0x5C, 0x5C], .decode, .arrive [], .arrive [0x71, 0x93]] =
        delivery empty [.arrive [0x00, 0x5C, 0x5C, 0x71, 0x93]] ∧
      delivery empty [.arrive [0x00, 0x5C, 0x5C, 0x71, 0x93]] =
        ([Command.pulse { chipId := 1, length := 4 }], { skipped := 1, buffer := [] }) := by
  have harrived : arrived [.arrive [0x00, 0x5C, 0x5C], .decode, .arrive [], .arrive [0x71, 0x93]] =
      arrived [.arrive [0x00, 0x5C, 0x5C, 0x71, 0x93]] := rfl
  exact ⟨harrived, (delivery_eq_of_arrived_eq harrived).1, by decide +kernel⟩

end StreamDecoder
end PixelChip

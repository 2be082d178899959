import PixelChip.Proofs.Dissect.Account
import PixelChip.Proofs.Link.Streaming

/-!
# No byte is lost or counted twice

A byte that is decoded belongs to an item or is skipped.  An item is as long on the wire as the
bytes it was read from, so that the lengths of all items and the number of skipped bytes add up to
the bytes decoded.

For a complete buffer that is one induction along the decoding (`packedLength_decoded_add`), and
`ReportsAt` says that each skipped byte is reported where it stands.  A stream decoder also keeps
bytes on which it has not decided.  A `Ledger` holds what went in and came out; one call keeps it
balanced (`Ledger.Balanced.record`), and so does any sequence of calls.
-/

namespace PixelChip

open Channel Dissection

variable {α : Type} [Packet α]

/-- How many bytes some items take on the wire. -/
def packedLength : List α → Nat
  | [] => 0
  | item :: items => (Packet.encode item).length + packedLength items

lemma length_encodeAll (items : List α) : (encodeAll items).length = packedLength items := by
  induction items with
  | nil => rfl
  | cons item items ih => rw [encodeAll_cons, List.length_append, ih, packedLength]

lemma packedLength_append (items items' : List α) :
    packedLength (items ++ items') = packedLength items + packedLength items' := by
  rw [← length_encodeAll, encodeAll, List.flatMap_append, List.length_append, ← encodeAll,
    ← encodeAll, length_encodeAll, length_encodeAll]

/-! ## A complete buffer -/

/-- Items and skipped bytes make up the buffer. -/
lemma packedLength_decoded_add [UniformPacket α] (src : List UInt8) :
    packedLength (decoded (α := α) src) + skippedCount α src = src.length := by
  induction src using bufferInduction (α := α) with
  | nil => rfl
  | item src item n hsrc hparse ih =>
      have hle := LawfulPacket.length_le hparse
      have hstep := decoded_of_parse_ok hsrc hparse
      rw [List.length_drop] at ih
      rw [hstep.1, hstep.2, packedLength, UniformPacket.length_encode hparse]
      omega
  | skip byte rest reason hparse ih =>
      have hstep := decoded_of_parse_error hparse
      rw [hstep.1, hstep.2, List.length_cons, ← ih, Nat.add_assoc]

/-- A report names a byte of a buffer whose first byte has the given offset, and why no item starts
there. -/
structure ReportsAt (α : Type) [Packet α] (offset : Nat) (src : List UInt8) (skip : SkippedByte) :
    Prop where
  offset_le : offset ≤ skip.offset
  byte_eq : src[skip.offset - offset]? = some skip.byte
  reason_eq : Packet.parse (α := α) (src.drop (skip.offset - offset)) = .error skip.reason

/-- Bytes in front of a buffer move its reports. -/
lemma ReportsAt.of_drop {offset n : Nat} {src : List UInt8} {skip : SkippedByte}
    (h : ReportsAt α (offset + n) (src.drop n) skip) : ReportsAt α offset src skip := by
  have hle := h.offset_le
  have hbyte := h.byte_eq
  have hreason := h.reason_eq
  have hplace : n + (skip.offset - (offset + n)) = skip.offset - offset := by omega
  rw [List.getElem?_drop, hplace] at hbyte
  rw [List.drop_drop, hplace] at hreason
  exact ⟨by omega, hbyte, hreason⟩

/-- Every skipped byte is reported where it stands. -/
lemma reportsAt_of_mem_skippedFrom [LawfulPacket α] {offset : Nat} {src : List UInt8}
    {skip : SkippedByte} (h : skip ∈ skippedFrom α offset src) : ReportsAt α offset src skip := by
  induction src using bufferInduction (α := α) generalizing offset with
  | nil => exact absurd h List.not_mem_nil
  | item src item n hsrc hparse ih =>
      rw [skippedFrom_of_parse_ok offset hsrc hparse] at h
      exact (ih h).of_drop
  | skip byte rest reason hparse ih =>
      rw [skippedFrom_of_parse_error offset hparse, List.mem_cons] at h
      obtain rfl | h := h
      · refine ⟨Nat.le_refl offset, ?_, ?_⟩
        · rw [Nat.sub_self, List.getElem?_cons_zero]
        · rw [Nat.sub_self, List.drop_zero, hparse]
      · exact ReportsAt.of_drop (n := 1) (ih h)

/-- Skipped bytes are reported in the order in which they stand. -/
lemma pairwise_skippedFrom [LawfulPacket α] (offset : Nat) (src : List UInt8) :
    ((skippedFrom α offset src).map (·.offset)).Pairwise (· < ·) := by
  induction src using bufferInduction (α := α) generalizing offset with
  | nil => exact List.Pairwise.nil
  | item src item n hsrc hparse ih =>
      rw [skippedFrom_of_parse_ok offset hsrc hparse]
      exact ih (offset + n)
  | skip byte rest reason hparse ih =>
      rw [skippedFrom_of_parse_error offset hparse, List.map_cons]
      refine List.pairwise_cons.2 ⟨fun later hlater => ?_, ih (offset + 1)⟩
      obtain ⟨skip, hskip, rfl⟩ := List.mem_map.1 hlater
      exact le_of_mem_skippedFrom hskip

/-- A channel accounts for every byte of a buffer. -/
structure Channel.AccountsFor (channel : Channel α) (src : List UInt8) : Prop where
  /-- Items and skipped bytes make up the buffer. -/
  conserved : packedLength channel.items.toList + channel.skipped.length = src.length
  /-- Written again, the items take what was not skipped. -/
  encoded : channel.encode.bytes.length = src.length - channel.skipped.length
  ascending : (channel.skipped.map (·.offset)).Pairwise (· < ·)
  /-- A skipped byte stands at its offset, and is reported with what the parser says there. -/
  reported : ∀ skip ∈ channel.skipped, src[skip.offset]? = some skip.byte ∧
    Packet.parse (α := α) (src.drop skip.offset) = .error skip.reason

lemma accountsFor_ofBytes [UniformPacket α] (src : List UInt8) :
    (ofBytes (α := α) src).AccountsFor src := by
  have hconserved : packedLength (decoded (α := α) src) + (ofBytes (α := α) src).skipped.length =
      src.length := packedLength_decoded_add src
  refine ⟨hconserved, ?_, pairwise_skippedFrom 0 src, fun skip hskip => ?_⟩
  · show (encodeAll (decoded (α := α) src)).length = _
    rw [length_encodeAll]
    omega
  · have hreports : ReportsAt α 0 src skip := reportsAt_of_mem_skippedFrom hskip
    exact ⟨hreports.byte_eq, hreports.reason_eq⟩

/-! ## A stream -/

namespace StreamDecoder

/-- A call that yields an item, or none, and leaves a decoder neither loses nor invents a byte. -/
def Conserves (before : StreamDecoder α) (outcome : Option α × StreamDecoder α) : Prop :=
  packedLength outcome.1.toList + outcome.2.skipped + outcome.2.buffer.length =
    before.skipped + before.buffer.length

lemma conserves_none (decoder : StreamDecoder α) : decoder.Conserves (none, decoder) :=
  congrArg (· + decoder.buffer.length) (Nat.zero_add decoder.skipped)

/-- Asking for the next item conserves the bytes. -/
lemma conserves_next [UniformPacket α] (decoder : StreamDecoder α) :
    decoder.Conserves decoder.next := by
  obtain ⟨skipped, src⟩ := decoder
  induction src using bufferInduction (α := α) generalizing skipped with
  | nil => exact conserves_none _
  | item src item n hsrc hparse ih =>
      have hle := LawfulPacket.length_le hparse
      have hitem : packedLength [item] = n := by
        rw [packedLength, UniformPacket.length_encode hparse, packedLength, Nat.add_zero]
      rw [next_of_parse_ok hsrc hparse]
      show packedLength [item] + skipped + (src.drop n).length = skipped + src.length
      rw [hitem, List.length_drop]
      omega
  | skip byte rest reason hparse ih =>
      cases hreason : reason.isTruncated with
      | true =>
          have hpending : isPending (Packet.parse (α := α) (byte :: rest)) = true := by
            rw [hparse, isPending_error, hreason]
          rw [next_of_isPending (List.cons_ne_nil byte rest) hpending]
          exact conserves_none _
      | false =>
          -- the byte leaves the buffer and is counted
          have hrest := ih (skipped + 1)
          rw [next_of_parse_error hparse hreason]
          refine hrest.trans ?_
          rw [List.length_cons, Nat.add_assoc, Nat.add_comm 1]

/-- The end of a stream counts what it discards. -/
lemma conserves_finish [UniformPacket α] (decoder : StreamDecoder α) :
    decoder.Conserves decoder.finish := by
  have hnext := decoder.conserves_next
  unfold finish
  split
  · next item rest h => rwa [h] at hnext
  · next rest h =>
      rw [h] at hnext
      unfold Conserves at hnext ⊢
      simp only [Nat.add_assoc, List.length_nil, Nat.add_zero] at hnext ⊢
      exact hnext

/-- A call on a stream decoder: bytes arrive, the next item is asked for, or the stream ends. -/
inductive Call where
  | feed (bytes : List UInt8)
  | next
  | finish

/-- A stream decoder, and what has passed through it. -/
structure Ledger (α : Type) where
  decoder : StreamDecoder α
  /-- Number of bytes that arrived. -/
  fed : Nat
  yielded : List α

namespace Ledger

/-- A fresh decoder. -/
def opened : Ledger α where
  decoder := empty
  fed := 0
  yielded := []

/-- The decoder yields an item, or none. -/
def yield (ledger : Ledger α) (outcome : Option α × StreamDecoder α) : Ledger α :=
  { ledger with decoder := outcome.2, yielded := ledger.yielded ++ outcome.1.toList }

/-- A call is made and its outcome written down. -/
def record (ledger : Ledger α) : Call → Ledger α
  | .feed bytes =>
    { ledger with decoder := ledger.decoder.feed bytes, fed := ledger.fed + bytes.length }
  | .next => ledger.yield ledger.decoder.next
  | .finish => ledger.yield ledger.decoder.finish

/-- The ledger of some calls on a fresh decoder. -/
def ofCalls (calls : List Call) : Ledger α :=
  calls.foldl record opened

/-- What arrived was yielded in an item, or skipped, or is kept. -/
def Balanced (ledger : Ledger α) : Prop :=
  ledger.fed =
    packedLength ledger.yielded + ledger.decoder.skipped + ledger.decoder.buffer.length

lemma Balanced.yield {ledger : Ledger α} {outcome : Option α × StreamDecoder α}
    (h : ledger.Balanced) (houtcome : ledger.decoder.Conserves outcome) :
    (ledger.yield outcome).Balanced := by
  unfold Balanced Conserves at *
  show ledger.fed = packedLength (ledger.yielded ++ outcome.1.toList) + outcome.2.skipped +
    outcome.2.buffer.length
  rw [packedLength_append]
  omega

/-- **A call keeps the ledger balanced.** -/
lemma Balanced.record [UniformPacket α] {ledger : Ledger α} (h : ledger.Balanced) (call : Call) :
    (ledger.record call).Balanced := by
  cases call with
  | feed bytes =>
      unfold Balanced at h ⊢
      show ledger.fed + bytes.length = packedLength ledger.yielded + ledger.decoder.skipped +
        (ledger.decoder.buffer ++ bytes).length
      rw [List.length_append]
      omega
  | next => exact h.yield ledger.decoder.conserves_next
  | finish => exact h.yield ledger.decoder.conserves_finish

lemma balanced_opened : (opened (α := α)).Balanced := rfl

/-- Any calls leave the ledger balanced. -/
lemma balanced_ofCalls [UniformPacket α] (calls : List Call) :
    (ofCalls (α := α) calls).Balanced := by
  induction calls using List.reverseRecOn with
  | nil => exact balanced_opened
  | append_singleton calls call ih =>
      rw [ofCalls, List.foldl_concat]
      exact ih.record call

end Ledger
end StreamDecoder

/-- **Every byte is accounted for exactly once**, on both links.  What a complete buffer decodes to
accounts for its bytes.  At every moment of a stream, whatever the calls so far were, the bytes that
arrived are those of the items yielded, those counted as skipped and those still kept. -/
theorem every_byte_is_accounted_for (src : List UInt8) (calls : List StreamDecoder.Call) :
    ((ofBytes (α := Command) src).AccountsFor src ∧
        (StreamDecoder.Ledger.ofCalls (α := Command) calls).Balanced) ∧
      (ofBytes (α := Frame) src).AccountsFor src ∧
        (StreamDecoder.Ledger.ofCalls (α := Frame) calls).Balanced :=
  ⟨⟨accountsFor_ofBytes src, StreamDecoder.Ledger.balanced_ofCalls calls⟩,
    accountsFor_ofBytes src, StreamDecoder.Ledger.balanced_ofCalls calls⟩

end PixelChip

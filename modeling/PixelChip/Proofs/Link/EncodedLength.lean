import PixelChip.Proofs.Command.RoundTrip
import PixelChip.Proofs.Frame.RoundTrip

/-!
# Items are as long as their encodings

A command has several forms if some of its bits mean nothing, and a frame is read from any eight
bytes.  Whatever the bytes were, an item that was read from them encodes to as many.
-/

namespace PixelChip

/-- An item takes as many bytes of a buffer as it encodes to. -/
class UniformPacket (α : Type) [Packet α] : Prop extends LawfulPacket α where
  length_encode : ∀ {src : List UInt8} {item : α} {n : Nat},
    Packet.parse src = .ok (item, n) → (Packet.encode item).length = n

/-- All forms of a command have one length, and its encoding is a form. -/
lemma Command.length_encode_of_parse {src : List UInt8} {command : Command} {n : Nat}
    (h : Command.parse src = .ok (command, n)) : command.encode.length = n := by
  obtain ⟨bytes, behind, -, hwritten, rfl⟩ := Command.parse_eq_ok_iff.1 h
  have hencode : Written command.encode command := by
    have hform := Command.written_encode command
    rwa [Command.onWire_of_inWidth (Command.inWidth_of_parse h)] at hform
  rw [hencode.length_eq, hwritten.length_eq]

instance : UniformPacket Command where
  length_encode := Command.length_encode_of_parse

instance : UniformPacket Frame where
  length_encode h := by
    rw [(Frame.length_of_parse h).1]
    exact Frame.length_encode _

end PixelChip

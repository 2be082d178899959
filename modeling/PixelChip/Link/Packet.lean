import PixelChip.Link.Command.Text
import PixelChip.Link.Frame.Text

/-!
# Items of a link

Commands and frames travel on different links, but a channel and a stream decoder treat both
alike. `Packet` gathers what they need to know about an item.
-/

namespace PixelChip

/-- An item that a link carries. -/
class Packet (α : Type) where
  /-- Name of such an item in diagnostics. -/
  kind : String
  /-- The wire encoding. -/
  encode : α → List UInt8
  /-- The item at the start of a buffer and its length. -/
  parse : List UInt8 → Except ParseError (α × Nat)
  /-- The line that describes an item. -/
  text : α → String

instance : Packet Command where
  kind := "command"
  encode := Command.encode
  parse := Command.parse
  text := Command.text

instance : Packet Frame where
  kind := "frame"
  encode := Frame.encode
  parse := Frame.parse
  text := Frame.text

/-- The wire encoding of several items, one after another. -/
def encodeAll {α : Type} [Packet α] (items : List α) : List UInt8 :=
  items.flatMap Packet.encode

/-- Bytes in hexadecimal, separated by blanks. -/
def hexBytes (bytes : List UInt8) : String :=
  " ".intercalate (bytes.map fun byte => Text.hex 2 byte.toNat)

end PixelChip

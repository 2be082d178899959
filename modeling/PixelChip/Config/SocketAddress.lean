import PixelChip.Text.Number

/-!
# Socket addresses

An address to listen on: an IPv4 address and a port (`127.0.0.1:5053`), or an IPv6 address in
brackets, with an optional numeric scope, and a port (`[::1]:5053`).

The parts of an IPv4 address have no leading zeros. An IPv6 address has eight groups of up to four
hexadecimal digits; one run of groups that are 0 may be left out (`::`), and the last two groups
may be written as an IPv4 address. It is printed with its longest run of two or more zero groups
left out, the first of several that are equally long.
-/

namespace PixelChip

/-- An address to listen on. -/
inductive SocketAddress where
  | v4 (octets : Vector UInt8 4) (port : UInt16)
  | v6 (groups : Vector UInt16 8) (scope : UInt32) (port : UInt16)
  deriving DecidableEq

namespace SocketAddress

/-! ## Reading -/

/-- A reader takes a part of an address from the front of a text and leaves the rest. -/
abbrev Reader (α : Type) := List Char → Option (α × List Char)

/-- The value of a digit in a base up to 16. -/
def digit? (base : Nat) (c : Char) : Option Nat :=
  let value :=
    if '0' ≤ c ∧ c ≤ '9' then some (c.toNat - '0'.toNat)
    else if 'a' ≤ c ∧ c ≤ 'f' then some (c.toNat - 'a'.toNat + 10)
    else if 'A' ≤ c ∧ c ≤ 'F' then some (c.toNat - 'A'.toNat + 10)
    else none
  value.filter (· < base)

/-- The digits at the front of a text. -/
def digits (base : Nat) : List Char → List Nat × List Char
  | [] => ([], [])
  | c :: rest =>
    match digit? base c with
    | none => ([], c :: rest)
    | some d =>
      let (ds, rest) := digits base rest
      (d :: ds, rest)

/-- All digits at the front of a text, at least one, that denote a number below `limit`. -/
def number (base limit : Nat) : Reader Nat := fun text =>
  let (ds, rest) := digits base text
  let value := ds.foldl (fun n d => base * n + d) 0
  if ds.isEmpty ∨ limit ≤ value then none else some (value, rest)

/-- A given character. -/
def char (expected : Char) : Reader Unit
  | c :: rest => if c = expected then some ((), rest) else none
  | [] => none

/-- A part of an IPv4 address: up to three digits without a leading zero. -/
def octet : Reader UInt8 := fun text => do
  let (ds, _) := digits 10 text
  let (value, rest) ← number 10 256 text
  if 3 < ds.length ∨ (ds.head? = some 0 ∧ 1 < ds.length) then none
  else some (.ofNat value, rest)

/-- An IPv4 address. -/
def ipv4 : Reader (Vector UInt8 4) := fun text => do
  let (a, text) ← octet text
  let ((), text) ← char '.' text
  let (b, text) ← octet text
  let ((), text) ← char '.' text
  let (c, text) ← octet text
  let ((), text) ← char '.' text
  let (d, text) ← octet text
  return (#v[a, b, c, d], text)

/-- A group of an IPv6 address: up to four hexadecimal digits. -/
def group : Reader UInt16 := fun text => do
  let (ds, _) := digits 16 text
  let (value, rest) ← number 16 65536 text
  if 4 < ds.length then none else some (.ofNat value, rest)

/-- The two groups that an IPv4 address stands for. -/
def groupsOfIpv4 (octets : Vector UInt8 4) : List UInt16 :=
  [.ofNat (256 * octets[0].toNat + octets[1].toNat),
   .ofNat (256 * octets[2].toNat + octets[3].toNat)]

/-- Reads a part with a colon in front of it, unless it is the first. -/
def separated {α : Type} (first : Bool) (reader : Reader α) : Reader α := fun text => do
  let text ← if first then some text else (char ':' text).map (·.2)
  reader text

/-- As many groups as there are, up to a limit, and whether they end in an IPv4 address, which
needs room for two groups. -/
def groups (first : Bool) : (limit : Nat) → List Char → List UInt16 × Bool × List Char
  | 0, text => ([], false, text)
  | limit + 1, text =>
    match if 0 < limit then separated first ipv4 text else none with
    | some (octets, rest) => (groupsOfIpv4 octets, true, rest)
    | none =>
      match separated first group text with
      | none => ([], false, text)
      | some (g, rest) =>
        let (gs, embedded, rest) := groups false limit rest
        (g :: gs, embedded, rest)

/-- Eight groups from a list, zero where it has none. -/
def eightGroups (gs : List UInt16) : Vector UInt16 8 :=
  Vector.ofFn fun i => gs[i.val]?.getD 0

/-- An IPv6 address. -/
def ipv6 : Reader (Vector UInt16 8) := fun text => do
  let (front, embedded, rest) := groups true 8 text
  if front.length = 8 then return (eightGroups front, rest)
  if embedded then none
  let ((), rest) ← char ':' rest
  let ((), rest) ← char ':' rest
  let (back, _, rest) := groups true (8 - (front.length + 1)) rest
  let zeros := List.replicate (8 - front.length - back.length) 0
  return (eightGroups (front ++ zeros ++ back), rest)

/-- A port after its colon. -/
def port : Reader UInt16 := fun text => do
  let ((), text) ← char ':' text
  let (value, text) ← number 10 65536 text
  return (.ofNat value, text)

/-- An optional scope after a percent sign, 0 if there is none. -/
def scope (text : List Char) : UInt32 × List Char :=
  match (char '%' text).bind fun ((), rest) => number 10 4294967296 rest with
  | some (value, rest) => (.ofNat value, rest)
  | none => (0, text)

/-- An IPv4 address and a port. -/
def socketV4 : Reader SocketAddress := fun text => do
  let (octets, text) ← ipv4 text
  let (p, text) ← port text
  return (.v4 octets p, text)

/-- An IPv6 address in brackets, perhaps with a scope, and a port. -/
def socketV6 : Reader SocketAddress := fun text => do
  let ((), text) ← char '[' text
  let (gs, text) ← ipv6 text
  let (s, text) := scope text
  let ((), text) ← char ']' text
  let (p, text) ← port text
  return (.v6 gs s p, text)

/-- What a reader makes of a whole text. -/
def whole {α : Type} (reader : Reader α) (text : List Char) : Option α :=
  match reader text with
  | some (value, []) => some value
  | _ => none

/-- The address that a text denotes. -/
def ofText? (text : List Char) : Option SocketAddress :=
  (whole socketV4 text).or (whole socketV6 text)

/-! ## Printing -/

/-- The text of an IPv4 address. -/
def ipv4Text (octets : List Nat) : String :=
  ".".intercalate (octets.map Text.decimal)

/-- The first longest run of zeros in a list, as its start and length. `start` and `run` are the
position and the zeros just before the list, `best` is the best run so far. -/
def longestZeros (position run : Nat) (best : Nat × Nat) : List UInt16 → Nat × Nat
  | [] => best
  | g :: rest =>
    if g = 0 then
      let best := if best.2 < run + 1 then (position - run, run + 1) else best
      longestZeros (position + 1) (run + 1) best rest
    else longestZeros (position + 1) 0 best rest

/-- The text of some groups, separated by colons. -/
def groupsText (gs : List UInt16) : String :=
  ":".intercalate (gs.map fun g => Text.hex 1 g.toNat)

/-- The text of an IPv6 address. One that stands for an IPv4 address shows that. -/
def ipv6Text (gs : List UInt16) : String :=
  match gs with
  | [0, 0, 0, 0, 0, 0xFFFF, high, low] =>
    "::ffff:" ++ ipv4Text [high.toNat / 256, high.toNat % 256, low.toNat / 256, low.toNat % 256]
  | _ =>
    let (start, length) := longestZeros 0 0 (0, 0) gs
    if 1 < length then groupsText (gs.take start) ++ "::" ++ groupsText (gs.drop (start + length))
    else groupsText gs

/-- The text of an address. A scope of 0 is not shown. -/
def text : SocketAddress → String
  | v4 octets port =>
    ipv4Text (octets.toList.map UInt8.toNat) ++ ":" ++ Text.decimal port.toNat
  | v6 gs scope port =>
    "[" ++ ipv6Text gs.toList ++ (if scope = 0 then "" else "%" ++ Text.decimal scope.toNat)
      ++ "]:" ++ Text.decimal port.toNat

end SocketAddress
end PixelChip

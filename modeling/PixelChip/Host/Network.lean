import PixelChip.Config.SocketAddress
import PixelChip.OsError

/-!
# Networks

A host and a chip meet at a socket address, at which the chip listens and to which the host
connects. What can be bound and reached there depends on the network around them.
-/

namespace PixelChip

namespace SocketAddress

/-- The port of an address. -/
def portNumber : SocketAddress → Nat
  | v4 _ port => port.toNat
  | v6 _ _ port => port.toNat

/-- Whether an address stands for the machine itself. -/
def isLoopback : SocketAddress → Bool
  | v4 octets _ => octets.toList.head? = some 127
  | v6 groups _ _ => groups.toList = [0, 0, 0, 0, 0, 0, 0, 1]

/-- Whether an address stands for all addresses of the machine. -/
def isUnspecified : SocketAddress → Bool
  | v4 octets _ => octets.toList = [0, 0, 0, 0]
  | v6 groups _ _ => groups.toList = [0, 0, 0, 0, 0, 0, 0, 0]

end SocketAddress

/-- What a network allows. -/
structure Network where
  /-- Whether a program can listen at an address. -/
  bind : SocketAddress → Except OsError Unit
  /-- Whether a program that listens at an address can be reached. -/
  connect : SocketAddress → Except OsError Unit

namespace Network

/-- Ports from 1 to this one need a privilege that programs do not have. -/
def lastReservedPort : Nat := 1023

/-- Binding where all addresses but those of the machine itself belong to others. -/
def bindOwn (address : SocketAddress) : Except OsError Unit :=
  if 0 < address.portNumber ∧ address.portNumber ≤ lastReservedPort then .error .permissionDenied
  else if address.isLoopback || address.isUnspecified then .ok ()
  else .error .addressNotAvailable

/-- A machine that reaches itself and nothing else. -/
def loopback : Network where
  bind := bindOwn
  connect address :=
    if address.isLoopback || address.isUnspecified then .ok () else .error .networkUnreachable

/-- A machine all of whose interfaces are down, so that it does not even reach itself. -/
def isolated : Network where
  bind := bindOwn
  connect _ := .error .networkUnreachable

end Network
end PixelChip

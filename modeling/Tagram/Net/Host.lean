/-
# Hosts

What a datagram socket finds on the computer it runs on: which addresses it
can be bound to, and where it can send.

`Host.isolated` has no interface, not even its loopback one. It has no address
of version 6 and no table of its addresses of version 4, so a socket can be
bound to any of the latter; no route leads anywhere, but a datagram to the
unspecified address of version 4 is taken and dropped.

A socket of version 4 cannot send to an address of version 6. A socket of
version 6 can send to version 4, also by an address that maps it.

Key definitions: `Net.Host`, `Net.Host.isolated`.
-/
import Tagram.Net.Address
import Tagram.Net.SocketError

namespace Tagram
namespace Net

/-! ### Kinds of addresses -/

namespace Address

/-- The address of version 4 that an address is or maps, as a number. -/
def v4? : Address → Option Nat
  | .v4 a b c d _ => some (((a.toNat * 256 + b.toNat) * 256 + c.toNat) * 256 + d.toNat)
  | .v6 groups _ _ =>
    match groups.toList with
    | [0, 0, 0, 0, 0, 0xFFFF, x, y] => some (x.toNat * 65536 + y.toNat)
    | _ => none

/-- Whether an address is of version 6. -/
def isV6 : Address → Bool
  | .v4 .. => false
  | .v6 .. => true

/-- Whether an address maps one of version 4. -/
def isMapped (a : Address) : Bool := a.isV6 && a.v4?.isSome

/-- Whether an address stands for all addresses of its version. -/
def isUnspecified : Address → Bool
  | .v4 a b c d _ => a = 0 && b = 0 && c = 0 && d = 0
  | .v6 groups _ _ => groups.toList.all (· = 0)

/-- Whether an address of version 6 is a multicast address. -/
def isMulticastV6 : Address → Bool
  | .v4 .. => false
  | .v6 groups _ _ => groups[0] / 0x100 = 0xFF

/-- Whether an address has a meaning only on one link or interface. -/
def isScoped : Address → Bool
  | .v4 .. => false
  | .v6 groups _ _ =>
    let g := groups[0]
    g / 0x40 = 0xFE80 / 0x40 || (g / 0x100 = 0xFF && (g % 0x10 = 1 || g % 0x10 = 2))

/-- The scope of an address, zero if it has none. -/
def scope : Address → UInt32
  | .v4 .. => 0
  | .v6 _ scope _ => scope

/-- The same address with another port. -/
def withPort (port : UInt16) : Address → Address
  | .v4 a b c d _ => .v4 a b c d port
  | .v6 groups scope _ => .v6 groups scope port

/-- Whether a socket at one address keeps another socket from the other one. -/
def conflicts (a b : Address) : Bool :=
  a.port = b.port && a.port ≠ 0 &&
    (a.isUnspecified || b.isUnspecified || a.withPort 0 = b.withPort 0 ||
      (a.v4?.isSome && a.v4? = b.v4?))

end Address

/-! ### Errors -/

namespace SocketError

/-- The device that an address names does not exist. -/
def noDevice : SocketError := ⟨.uncategorized, "No such device", some 19⟩

/-- The peer has no port, or the local address no scope. -/
def invalidArgument : SocketError := ⟨.invalidInput, "Invalid argument", some 22⟩

/-- A socket of version 4 cannot send to version 6. -/
def wrongFamily : SocketError :=
  ⟨.uncategorized, "Address family not supported by protocol", some 97⟩

/-- Another socket has the local address. -/
def inUse : SocketError := ⟨.addrInUse, "Address already in use", some 98⟩

/-- The local address is none of the host's, or the host has none to send from. -/
def notAvailable : SocketError := ⟨.addrNotAvailable, "Cannot assign requested address", some 99⟩

/-- No route leads to the peer. -/
def unreachable : SocketError := ⟨.networkUnreachable, "Network is unreachable", some 101⟩

end SocketError

/-! ### Hosts -/

/-- A computer as its sockets see it. -/
structure Host where
  /-- Why no socket can be bound to an address. -/
  bindError? : Address → Option SocketError
  /-- Why a datagram cannot be sent from one address to another. -/
  sendError? : (source peer : Address) → Option SocketError

namespace Host

/-- Why an address cannot be had beside those that are taken. -/
def takenError? (taken : List Address) (a : Address) : Option SocketError :=
  if taken.any (a.conflicts ·) then some .inUse else none

/-- A host without interfaces, with some addresses taken. -/
def isolated (taken : List Address) : Host where
  bindError? a :=
    if !a.isV6 || a.isUnspecified || a.isMapped then takenError? taken a
    else if a.isScoped && a.scope = 0 then some .invalidArgument
    else if a.isScoped && a.scope ≠ 1 then some .noDevice
    else if a.isMulticastV6 then takenError? taken a
    else some .notAvailable
  sendError? source peer :=
    if !source.isV6 && peer.isV6 then some .wrongFamily
    else if peer.port = 0 then some .invalidArgument
    else
      match peer.v4? with
      | some n => if n = 0 then none else some .unreachable
      | none => some (if source.isMapped then .unreachable else .notAvailable)

end Host
end Net
end Tagram

/-
# Datagram sockets

The sockets of the operating system, as an endpoint's thread uses them. A call
comes back with the reply that the thread's machine takes. Receiving never
blocks: a datagram that has not come yet is a wait that ran out, and the next
call asks for the same one.

Key definitions: `Net.Socket`, `Net.Socket.call`.
-/
import Std.Async.UDP
import Tagram.Endpoint.Actor
import Tagram.Net.Host

namespace Tagram
namespace Net

open Std.Async

/-- An address as the operating system's sockets take it. A scope is left out. -/
def Address.toNative : Address → Std.Net.SocketAddress
  | .v4 a b c d port => .v4 ⟨.ofParts a b c d, port⟩
  | .v6 groups _ port => .v6 ⟨⟨groups⟩, port⟩

/-- The number of an error, without the sign that it may carry in 32 bits. -/
def unsigned (code : UInt32) : Nat :=
  if code.toNat < 0x80000000 then code.toNat else 0x100000000 - code.toNat

/-- The number of the operating system's error, if it has one. -/
def errorNumber? : IO.Error → Option Nat
  | .alreadyExists _ code _ | .otherError code _ | .resourceBusy code _
  | .resourceVanished code _ | .unsupportedOperation code _ | .hardwareFault code _
  | .unsatisfiedConstraints code _ | .illegalOperation code _ | .protocolError code _
  | .timeExpired code _ | .interrupted _ code _ | .noFileOrDirectory _ code _
  | .invalidArgument _ code _ | .permissionDenied _ code _ | .resourceExhausted _ code _
  | .inappropriateType _ code _ | .noSuchThing _ code _ => some (unsigned code)
  | .unexpectedEof | .userError _ => none

/-- What the operating system says about its errors. -/
def knownErrors : List SocketError := [
  ⟨.permissionDenied, "Permission denied", some 13⟩,
  .noDevice,
  .invalidArgument,
  .wrongFamily,
  .inUse,
  .notAvailable,
  ⟨.networkDown, "Network is down", some 100⟩,
  .unreachable,
  ⟨.connectionReset, "Connection reset by peer", some 104⟩,
  ⟨.timedOut, "Connection timed out", some 110⟩,
  ⟨.connectionRefused, "Connection refused", some 111⟩,
  ⟨.hostUnreachable, "No route to host", some 113⟩]

/-- An error as an endpoint reports it. -/
def SocketError.ofNative (e : IO.Error) : SocketError :=
  match errorNumber? e with
  | none => .custom .other (toString e)
  | some code =>
    (knownErrors.find? fun known => known.code = some code).getD
      ⟨.uncategorized, toString e, some code⟩

/-- A socket, and the receive call that waits on it. -/
structure Socket where
  native : UDP.Socket
  waiting : Option (AsyncTask (ByteArray × Option Std.Net.SocketAddress))

namespace Socket

/-- The reply to a call without a result. -/
def attempt (act : IO Unit) : IO Endpoint.Reply := do
  try
    act
    return .done
  catch e => return .failed (.ofNative e)

/-- Opens a socket at an address. -/
def bind (address : Address) : IO Socket := do
  let native ← UDP.Socket.mk
  native.bind address.toNative
  return ⟨native, none⟩

/-- Sends a datagram. -/
def send (s : Socket) (frame : Bytes) (peer : Address) : IO Unit :=
  Async.block (s.native.send ⟨frame.toArray⟩ (some peer.toNative))

/-- The datagram that has come, cut to `size` bytes, and `none` if none has. -/
def receive? (s : Socket) (size : Nat) : IO (Socket × Option Bytes) := do
  let task ←
    match s.waiting with
    | some task => pure task
    | none => Async.toIO (s.native.recv (UInt64.ofNat size))
  if ← IO.hasFinished task then
    let (data, _) ← AsyncTask.block task
    return ({ s with waiting := none }, some data.data.toList)
  else return ({ s with waiting := some task }, none)

/-- Makes the socket call that a thread makes next, if it makes one. A thread
that opens a socket gives up the one it had. -/
def call {μ : Type} (config : Endpoint.Config) (control : Endpoint.Control μ)
    (socket : Option Socket) : IO (Option Socket × Endpoint.Reply) := do
  match control, socket, config.role with
  | .opening, _, _ =>
    try
      return (some (← bind config.address), .done)
    catch e => return (none, .failed (.ofNative e))
  | .receiving _, some s, _ =>
    try
      let (s, data?) ← s.receive? config.bufferSize
      match data? with
      | some data => return (some s, .received data data.length)
      | none => return (some s, .failed (.ofKind .wouldBlock))
    catch e => return (some { s with waiting := none }, .failed (.ofNative e))
  | .sending _ _ frame, some s, .egress peer =>
    return (some s, ← attempt (s.send frame peer))
  | _, _, _ => return (socket, .done)

end Socket
end Net
end Tagram

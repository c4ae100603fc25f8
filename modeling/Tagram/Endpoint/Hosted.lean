/-
# Endpoints on a host

A host answers the socket calls of a thread: it binds or refuses an address,
delivers the datagrams that wait at the address one after another, each cut to
the size of the buffer, and takes or refuses datagrams. A wait for a datagram
runs out when none is there.

`Exchange.run` lets one endpoint send messages to another: datagrams come
first, then the messages, then a marker that shows that all has arrived.

Key definitions: `Endpoint.Hosted`, `Endpoint.Hosted.step`, `Endpoint.Exchange`,
`Endpoint.Exchange.run`.
-/
import Tagram.Command.Basic
import Tagram.Endpoint.Actor
import Tagram.Net.Host

namespace Tagram
namespace Endpoint

/-- The datagrams that an event sends. -/
def Event.sent? : Event → Option (Net.Address × Bytes)
  | .handed frame peer true => some (peer, frame)
  | _ => none

/-- What a host replies to the socket call that a thread makes next, if it makes
one, and the datagrams that still wait. -/
def hostReply {μ : Type} (host : Net.Host) (config : Config) (inbox : List Bytes) (a : Actor μ) :
    Reply × List Bytes :=
  let attempt (error? : Option Net.SocketError) : Reply :=
    match error? with
    | some e => .failed e
    | none => .done
  match a.control, config.role, inbox with
  | .opening, _, _ => (attempt (host.bindError? config.address), inbox)
  | .sending _ _ _, .egress peer, _ => (attempt (host.sendError? config.address peer), inbox)
  | .receiving _, _, d :: rest =>
    let data := d.take config.bufferSize
    (.received data data.length, rest)
  | .receiving _, _, [] => (.failed (.ofKind .wouldBlock), [])
  | _, _, _ => (.done, inbox)

/-- A thread on a host. -/
structure Hosted where
  setup : Setup Command
  actor : Actor Command
  /-- The datagrams that wait at its address. -/
  inbox : List Bytes
  /-- The time on the clock, which moves on only while the thread waits. -/
  now : Nat := 0

namespace Hosted

/-- One step of the thread. -/
def step (host : Net.Host) (h : Hosted) : Hosted × List Event :=
  let now := h.actor.due h.now
  let (reply, inbox) := hostReply host h.setup.config h.inbox h.actor
  let (actor, events) := h.actor.step h.setup now reply
  ({ h with actor := actor, inbox := inbox, now := now }, events)

/-- Steps until the thread ends, or until `fuel` steps are made. -/
def run (host : Net.Host) : (fuel : Nat) → Hosted → Hosted × List Event
  | 0, h => (h, [])
  | fuel + 1, h =>
    if h.actor.finished then (h, [])
    else
      let (h, events) := h.step host
      let (h, later) := run host fuel h
      (h, events ++ later)

end Hosted

/-- An exchange between two endpoints. -/
structure Exchange where
  /-- Where the receiving endpoint is bound. -/
  address : Net.Address
  /-- Where the sending endpoint is bound. -/
  source : Net.Address
  /-- The receiving endpoint's buffer. -/
  bufferSize : Nat
  /-- What is sent as it is. -/
  datagrams : List Bytes
  /-- What the sending endpoint sends. -/
  messages : List Command
  /-- What is sent last. -/
  marker : Command

namespace Exchange

/-- The datagrams that the sending endpoint hands to its host. -/
def outgoing (host : Net.Host) (x : Exchange) : List Bytes :=
  let sender : Hosted :=
    { setup := ⟨{ address := x.source, role := .egress x.address }, Registry.empty⟩
      actor := Actor.start x.messages
      inbox := [] }
  let (_, events) := sender.run host (8 + 4 * x.messages.length)
  (events.filterMap Event.sent?).map (·.2)

/-- The messages that the receiving endpoint queues before the marker, or `none`
if the marker does not arrive. -/
def run (host : Net.Host) (x : Exchange) : Option (List Command) :=
  let marker := (Frame.encode x.marker).toOption.toList
  let sent (ds : List Bytes) : List Bytes :=
    if (host.sendError? x.source x.address).isSome then [] else ds
  let inbox := sent x.datagrams ++ x.outgoing host ++ sent marker
  let receiver : Hosted :=
    { setup := ⟨{ address := x.address, role := .ingress, bufferSize := x.bufferSize },
        Command.registry⟩
      actor := Actor.start []
      inbox := inbox }
  let (receiver, _) := receiver.run host (8 + 4 * inbox.length)
  match receiver.actor.queue.getLast? with
  | some last => if last = x.marker then some receiver.actor.queue.dropLast else none
  | none => none

end Exchange
end Endpoint
end Tagram

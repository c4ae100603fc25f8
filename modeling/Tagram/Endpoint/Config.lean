/-
# Endpoint settings

An endpoint either receives datagrams at its address or sends messages from
its address to a peer. The poll interval bounds how long it waits before it
looks at its stop flag, and is never shorter than a millisecond.

Key definitions: `Endpoint.Role`, `Endpoint.Config`, `Endpoint.Config.poll`.
-/
import Tagram.Bytes
import Tagram.CodecError
import Tagram.Endpoint.Retry
import Tagram.Net.Address
import Tagram.Text.Record

namespace Tagram
namespace Endpoint

/-- What an endpoint does. -/
inductive Role where
  /-- Receive datagrams and queue their messages. -/
  | ingress
  /-- Send queued messages to a peer. -/
  | egress (peer : Net.Address)
  deriving DecidableEq

/-- The name of a role. -/
def Role.name : Role → String
  | .ingress => "ingress"
  | .egress _ => "egress"

/-- The peer of an endpoint that sends. -/
def Role.peer? : Role → Option Net.Address
  | .ingress => none
  | .egress peer => some peer

/-- The poll interval that is used when none is asked for. -/
def defaultPoll : Duration := ⟨100000000, by decide⟩

/-- The shortest poll interval. -/
def minPoll : Duration := ⟨1000000, by decide⟩

/-- The settings of an endpoint. -/
structure Config where
  /-- The local address. -/
  address : Net.Address
  role : Role
  /-- The size of the receive buffer; a longer datagram is cut. -/
  bufferSize : Nat := maxDatagram
  /-- The poll interval as it was set. -/
  pollInterval : Duration := defaultPoll
  retry : RetryPolicy := .default

namespace Config

/-- Settings with another poll interval, raised to the shortest one. -/
def withPoll (c : Config) (d : Duration) : Config := { c with pollInterval := d.longer minPoll }

/-- The poll interval in use. -/
def poll (c : Config) : Duration := c.pollInterval.longer minPoll

/-- The name of the endpoint's thread. -/
def threadName (c : Config) : String := c.role.name ++ "-" ++ c.address.text

/-- A role, with its peer. -/
def roleText : Role → String
  | .ingress => "Ingress"
  | .egress peer => Text.record "Egress" [("peer", peer.text)]

/-- A number that may be missing. -/
def optionText : Option UInt32 → String
  | none => "None"
  | some n => "Some(" ++ toString n.toNat ++ ")"

/-- A retry policy on one line. -/
def retryText (p : RetryPolicy) : String :=
  Text.record "RetryPolicy" [("initial_backoff", p.initialBackoff.text),
    ("max_backoff", p.maxBackoff.text), ("max_retries", optionText p.maxRetries)]

/-- The settings on one line. -/
def describe (c : Config) : String :=
  Text.record "EndpointConfig" [("address", c.address.text), ("role", roleText c.role),
    ("recv_buffer_size", toString c.bufferSize), ("poll_interval", c.pollInterval.text),
    ("retry", retryText c.retry)]

end Config
end Endpoint
end Tagram

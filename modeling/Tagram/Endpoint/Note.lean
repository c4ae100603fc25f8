/-
# What an endpoint reports

An endpoint reports what happens to it, each with a level of importance. A
note keeps the facts; its wording is `Note.text`.

Key definitions: `Level`, `Endpoint.Note`, `Endpoint.Note.level`,
`Endpoint.Note.text`.
-/
import Tagram.Endpoint.Config
import Tagram.Net.SocketError

namespace Tagram

/-- How important a note is. -/
inductive Level where
  | trace
  | debug
  | info
  | warn
  | error
  deriving DecidableEq

/-- The name of a level. -/
def Level.name : Level → String
  | .trace => "TRACE"
  | .debug => "DEBUG"
  | .info => "INFO"
  | .warn => "WARN"
  | .error => "ERROR"

namespace Endpoint

/-- What an endpoint reports. -/
inductive Note where
  /-- The socket is open. -/
  | bound
  /-- A frame was read, with the place it has in its datagram. -/
  | decoded (text : String)
  /-- A datagram arrived. -/
  | received (length frames : Nat)
  /-- A datagram is at fault after its first `consumed` bytes. -/
  | faulty (consumed : Nat) (cause : CodecError)
  /-- A datagram ends in bytes that are no frame. -/
  | trailing (count : Nat)
  /-- A decoder aborted. -/
  | decoderAborted (length : Nat) (reason : String)
  /-- A message cannot be written and is dropped. -/
  | unwritable (tag : String) (cause : CodecError)
  /-- A message was handed to the socket. -/
  | sent (tag : String) (length : Nat) (peer : Net.Address)
  /-- A session failed, for the `count`th time in a row. -/
  | failed (count : Nat) (source : Net.SocketError) (delay : Duration)
  /-- The last failure that the retry policy allows has passed. -/
  | gaveUp (count : Nat) (source : Net.SocketError)
  /-- The endpoint ended because it was asked to. -/
  | stopped
  /-- The owner gave up the endpoint and waits for it to end. -/
  | released
  deriving DecidableEq

namespace Note

/-- The level of a note. -/
def level : Note → Level
  | .decoded _ => .trace
  | .received _ _ | .sent _ _ _ | .released => .debug
  | .bound | .stopped => .info
  | .faulty _ _ | .trailing _ | .unwritable _ _ | .failed _ _ _ => .warn
  | .decoderAborted _ _ | .gaveUp _ _ => .error

/-- The wording of a note of the endpoint with the settings `c`. -/
def text (c : Config) (n : Note) : String :=
  let role := c.role.name
  let address := c.address.text
  match n with
  | .bound => s!"{role} endpoint bound at {address}"
  | .decoded text => text
  | .received length frames => s!"received {length} byte datagram with {frames} frames"
  | .faulty consumed cause =>
    s!"dropping rest of datagram after {consumed} bytes: {cause.message}"
  | .trailing count => s!"ignoring {count} trailing bytes of datagram"
  | .decoderAborted length reason => s!"decoder panicked on {length} byte datagram: {reason}"
  | .unwritable tag cause => s!"dropping '{tag}' message: {cause.message}"
  | .sent tag length peer => s!"sent '{tag}' frame of {length} bytes to {peer.text}"
  | .failed count source delay =>
    s!"{role} endpoint {address} socket failure #{count}: {source.text}; " ++
      s!"reopening in {delay.text}"
  | .gaveUp count source =>
    s!"{role} endpoint {address} giving up after {count} failures: {source.text}"
  | .stopped => s!"{role} endpoint {address} stopped"
  | .released => s!"shutting down {role} endpoint {address}"

end Note
end Endpoint
end Tagram

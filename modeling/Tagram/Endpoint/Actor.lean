/-
# The endpoint's thread

An endpoint runs on a thread of its own. The thread opens a socket, serves it
until it is asked to stop or the socket fails, and after a failure waits and
opens another one, until its retry policy is exhausted.

The thread is a machine that makes one step at a time. Between two steps its
owner, or any other thread, may push to the queue, take from it, or raise the
stop flag. Steps that call the socket get the socket's reply; nothing is
assumed about replies, so a theorem about all replies is a theorem about every
network. A step of an ended thread changes nothing.

An ingress session waits for a datagram, decodes it and queues its messages.
An egress session takes a message off the queue, writes it as one frame and
hands the frame to the socket. A decoder that aborts ends the session like a
socket error; any other abort ends the thread.

Between two sockets the thread waits until its clock shows the time at which
the wait is over. It sleeps for at most the poll interval at a time and then
looks at the stop flag and at the clock again.

Key definitions: `Endpoint.Reply`, `Endpoint.Control`, `Endpoint.Actor`,
`Endpoint.Event`, `Endpoint.Actor.fail`, `Endpoint.Actor.step`,
`Endpoint.Actor.run`.
-/
import Tagram.Endpoint.Buffer
import Tagram.Endpoint.Note
import Tagram.Frame.Datagram
import Tagram.Frame.Encode

namespace Tagram
namespace Endpoint

variable {μ : Type}

/-- What a socket call comes back with. -/
inductive Reply where
  /-- The call succeeded. -/
  | done
  /-- The socket wrote `data` to the start of the buffer and says that it
  received `length` bytes. -/
  | received (data : Bytes) (length : Nat)
  /-- The call failed. -/
  | failed (error : Net.SocketError)
  /-- The call aborted. -/
  | aborted
  deriving DecidableEq

/-- How a thread ends. -/
inductive Ending where
  /-- It was asked to stop. -/
  | stopped
  /-- The retry policy was exhausted by this many failures in a row. -/
  | gaveUp (attempts : Nat) (source : Net.SocketError)
  /-- It aborted. -/
  | aborted
  deriving DecidableEq

/-- The wording of an ending that is an error. -/
def Ending.message? : Ending → Option String
  | .stopped => none
  | .gaveUp attempts source =>
    some s!"gave up after {attempts} consecutive socket failures: {source.text}"
  | .aborted => some "endpoint thread panicked"

/-- An ending that is an error, with all its parts. -/
def Ending.describe? : Ending → Option String
  | .stopped => none
  | .gaveUp attempts source =>
    some (Text.record "RetriesExhausted"
      [("attempts", toString attempts), ("source", source.describe)])
  | .aborted => some "Panicked"

/-- A session: the time between opening a socket and closing it. -/
structure Session where
  /-- Whether the session has handled a datagram. -/
  progressed : Bool
  buffer : Buffer
  deriving DecidableEq

/-- What the thread does next. -/
inductive Control (μ : Type) where
  /-- Look at the stop flag, and open a socket if it is not raised. -/
  | idle
  /-- Open a socket. -/
  | opening
  /-- Set the read timeout of the socket just opened. -/
  | arming
  /-- Look at the stop flag, and go on with the session if it is not raised. -/
  | serving (session : Session)
  /-- Wait for a datagram. -/
  | receiving (session : Session)
  /-- Queue the messages of a datagram. -/
  | queueing (session : Session) (messages : List μ)
  /-- Take a message off the queue. -/
  | taking (session : Session)
  /-- Hand the frame of a message to the socket. -/
  | sending (session : Session) (tag : String) (frame : Bytes)
  /-- Look at the stop flag and at the clock, and sleep on if the flag is not raised and
  the time is not yet `deadline`. -/
  | pausing (delay : Duration) (deadline : Nat)
  | ended (ending : Ending)

/-- What stays the same for the life of a thread. -/
structure Setup (μ : Type) where
  config : Config
  registry : Registry μ

/-- The thread, with what it shares with others: the queue and the stop flag. -/
structure Actor (μ : Type) where
  queue : List μ
  stopping : Bool
  /-- The failures in a row so far. -/
  failures : Nat
  control : Control μ

/-- What a step does that can be seen from outside. -/
inductive Event where
  /-- A socket was opened, or opening it failed. -/
  | opened
  /-- The read timeout was set, or setting it failed. -/
  | timeoutSet (timeout : Duration)
  /-- A frame was handed to the socket. -/
  | handed (frame : Bytes) (peer : Net.Address) (accepted : Bool)
  /-- A thread that waits slept for so many nanoseconds. -/
  | slept (nanos : Nat)
  | noted (note : Note)
  deriving DecidableEq

/-- The clock counts seconds in 63 bits: whether a wait that starts after `now`
nanoseconds ends at a time that the clock can show. -/
def reachable (now : Nat) (delay : Duration) : Bool :=
  now + delay.nanos < 0x8000000000000000 * 1000000000

/-- The sizes from which on a buffer cannot be allocated. -/
def allocationLimit : Nat := 0x8000000000000000

/-- The most failures in a row that are counted. -/
def maxFailures : Nat := 0xFFFFFFFF

namespace Actor

/-- A thread that is about to start. -/
def start (queue : List μ) : Actor μ := ⟨queue, false, 0, .idle⟩

/-- The same thread at another point. -/
def goto (a : Actor μ) (c : Control μ) : Actor μ := { a with control := c }

/-- Whether the thread has ended. -/
def finished (a : Actor μ) : Bool :=
  match a.control with
  | .ended _ => true
  | _ => false

/-- When the thread makes its next step if it is free to at the time `now`: a thread that
waits is next seen when its wait is over. -/
def due (a : Actor μ) (now : Nat) : Nat :=
  match a.control with
  | .pausing _ deadline => max now deadline
  | _ => now

/-- A session failed. A session that handled a datagram starts the count of
failures anew. -/
def fail (setup : Setup μ) (now : Nat) (a : Actor μ) (source : Net.SocketError)
    (progressed : Bool) : Actor μ × List Event :=
  let retry := setup.config.retry
  let failures := min maxFailures ((if progressed then 0 else a.failures) + 1)
  let a := { a with failures := failures }
  if retry.exhausted failures then
    (a.goto (.ended (.gaveUp failures source)), [.noted (.gaveUp failures source)])
  else
    let delay := retry.backoff (failures - 1)
    let next :=
      if reachable now delay then .pausing delay (now + delay.nanos) else .ended .aborted
    (a.goto next, [.noted (.failed failures source delay)])

/-- The thread was asked to stop. -/
def halt (a : Actor μ) : Actor μ × List Event := (a.goto (.ended .stopped), [.noted .stopped])

/-- The thread aborts. -/
def abort (a : Actor μ) : Actor μ × List Event := (a.goto (.ended .aborted), [])

/-- What is noted about a datagram that was decoded. -/
def reportNotes (report : Datagram.Report μ) : List Note :=
  let rest :=
    match report.fault? with
    | some cause => [Note.faulty report.consumed cause]
    | none => if 0 < report.trailing then [Note.trailing report.trailing] else []
  .received report.length report.frames.length :: rest

/-- The socket says that it received `length` bytes. -/
def receive (setup : Setup μ) (now : Nat) (a : Actor μ) (session : Session) (data : Bytes)
    (length : Nat) : Actor μ × List Event :=
  let buffer := session.buffer.fill data
  match buffer.front? length with
  | none => a.abort
  | some datagram =>
    let report := Datagram.decode setup.registry datagram
    let traces := report.frames.map fun p => Event.noted (.decoded p.trace)
    match report.stop with
    | .aborted reason =>
      let reason := reason.getD "unknown panic"
      let (a, events) := a.fail setup now
        (.custom .other ("decoder panicked: " ++ reason)) session.progressed
      (a, traces ++ .noted (.decoderAborted length reason) :: events)
    | _ =>
      (a.goto (.queueing ⟨true, buffer⟩ report.messages),
        traces ++ (reportNotes report).map Event.noted)

/-- Takes the oldest message off the queue and writes it. Without one the wait runs
out. -/
def take [WireMessage μ] (a : Actor μ) (session : Session) : Actor μ × List Event :=
  match a.queue with
  | [] => (a.goto (.serving session), [])
  | m :: queue =>
    let a := { a with queue := queue }
    if WireMessage.aborts m then a.abort
    else
      match Frame.encode m with
      | .error cause =>
        (a.goto (.serving session), [.noted (.unwritable (WireMessage.tag m) cause)])
      | .ok frame => (a.goto (.sending session (WireMessage.tag m) frame), [])

/-- One step. `now` is the time on the clock in nanoseconds, and `reply` what
the socket comes back with if the step calls it. -/
def step [WireMessage μ] (setup : Setup μ) (now : Nat) (reply : Reply) (a : Actor μ) :
    Actor μ × List Event :=
  let config := setup.config
  match a.control with
  | .idle => if a.stopping then a.halt else (a.goto .opening, [])
  | .opening =>
    match reply with
    | .aborted => (a.goto (.ended .aborted), [.opened])
    | .failed e =>
      let (a, events) := a.fail setup now e false
      (a, .opened :: events)
    | _ => (a.goto .arming, [.opened])
  | .arming =>
    let set := Event.timeoutSet config.poll
    match reply with
    | .aborted => (a.goto (.ended .aborted), [set])
    | .failed e =>
      let (a, events) := a.fail setup now e false
      (a, set :: events)
    | _ =>
      let size :=
        match config.role with
        | .ingress => config.bufferSize
        | .egress _ => 0
      let next :=
        if size < allocationLimit then .serving ⟨false, Buffer.zeroed size⟩ else .ended .aborted
      (a.goto next, [set, .noted .bound])
  | .serving session =>
    if a.stopping then a.halt
    else
      match config.role with
      | .ingress => (a.goto (.receiving session), [])
      | .egress _ => (a.goto (.taking session), [])
  | .receiving session =>
    match reply with
    | .aborted => a.abort
    | .failed e =>
      if e.isTimeout then (a.goto (.serving session), [])
      else a.fail setup now e session.progressed
    | .received data length => a.receive setup now session data length
    | .done => a.receive setup now session [] 0
  | .queueing session messages =>
    ({ a with queue := a.queue ++ messages, control := .serving session }, [])
  | .taking session => a.take session
  | .sending session tag frame =>
    match config.role with
    | .ingress => a.abort
    | .egress peer =>
      match reply with
      | .aborted => a.abort
      | .failed e =>
        let (a, events) := a.fail setup now e session.progressed
        (a, .handed frame peer false :: events)
      | _ =>
        (a.goto (.serving { session with progressed := true }),
          [.handed frame peer true, .noted (.sent tag frame.length peer)])
  | .pausing _ deadline =>
    if a.stopping || deadline ≤ now then (a.goto .idle, [])
    else (a, [.slept (min (deadline - now) config.poll.nanos)])
  | .ended _ => (a, [])

/-- Steps with replies and times as they come. -/
def run [WireMessage μ] (setup : Setup μ) (a : Actor μ) : List (Nat × Reply) →
    Actor μ × List Event
  | [] => (a, [])
  | (now, reply) :: rest =>
    let (a, events) := a.step setup now reply
    let (a, later) := run setup a rest
    (a, events ++ later)

end Actor
end Endpoint
end Tagram

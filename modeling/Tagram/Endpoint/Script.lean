/-
# An endpoint over scripted sockets

Sockets that replay a script instead of using a network. The script lists what
happens at each call in turn, for all sockets of the endpoint together: a call
can raise the stop flag, abort, fail, or succeed. Past the end of the script
opening and sending succeed, and receiving raises the stop flag and reports
that nothing arrived. So every scripted run ends.

The owner may raise the stop flag itself, which then happens before the first
socket is opened, and a message of the queue can raise the flag when it is
taken.

Key definitions: `Endpoint.Script`, `Endpoint.Scenario`,
`Endpoint.Scenario.run`.
-/
import Tagram.Endpoint.Actor

namespace Tagram
namespace Endpoint

/-- What happens at a call before it succeeds. -/
structure Incident where
  /-- The stop flag is raised. -/
  stops : Bool := false
  aborts : Bool := false
  failure : Option Net.SocketError := none

/-- The reply of a call that would otherwise succeed with `reply`. -/
def Incident.reply (i : Incident) (reply : Reply) : Reply :=
  if i.aborts then .aborted
  else
    match i.failure with
    | some e => .failed e
    | none => reply

/-- Opening a socket; setting its read timeout can fail after that. -/
structure OpenStep extends Incident where
  timeoutFailure : Option Net.SocketError := none

/-- Receiving a datagram. -/
structure ReceiveStep extends Incident where
  data : Bytes := []
  /-- The length that the socket reports, if it is not the true one. -/
  stated : Option Nat := none

/-- What is still to happen. -/
structure Script where
  opens : List OpenStep := []
  receives : List ReceiveStep := []
  sends : List Incident := []
  /-- What setting the read timeout of the socket opened last fails with. -/
  timeoutFailure : Option Net.SocketError := none

/-- A call's reply, whether it raises the stop flag, and what is left of the script. -/
structure Script.Answer where
  reply : Reply
  stops : Bool
  rest : Script

namespace Script

/-- The answer to opening a socket. -/
def onOpen (s : Script) : Answer :=
  match s.opens with
  | [] => ⟨.done, false, { s with timeoutFailure := none }⟩
  | o :: opens =>
    ⟨o.toIncident.reply .done, o.stops, { s with opens, timeoutFailure := o.timeoutFailure }⟩

/-- The answer to setting a read timeout. -/
def onTimeout (s : Script) : Answer :=
  match s.timeoutFailure with
  | some e => ⟨.failed e, false, s⟩
  | none => ⟨.done, false, s⟩

/-- The answer to receiving into a buffer of `size` bytes. -/
def onReceive (s : Script) (size : Nat) : Answer :=
  match s.receives with
  | [] => ⟨.failed (.ofKind .wouldBlock), true, s⟩
  | r :: receives =>
    let length := r.stated.getD (min r.data.length size)
    ⟨r.toIncident.reply (.received r.data length), r.stops, { s with receives }⟩

/-- The answer to sending. -/
def onSend (s : Script) : Answer :=
  match s.sends with
  | [] => ⟨.done, false, s⟩
  | i :: sends => ⟨i.reply .done, i.stops, { s with sends }⟩

/-- The number of calls that the script lists. -/
def length (s : Script) : Nat := s.opens.length + s.receives.length + s.sends.length

end Script

/-- An endpoint, its queue, and the script of its sockets. -/
structure Scenario (μ : Type) where
  setup : Setup μ
  script : Script
  queue : List μ
  /-- Whether the owner raises the stop flag before the first socket is opened. -/
  ownerStops : Bool
  /-- Whether a message raises the stop flag when it is taken. -/
  stopsAt : μ → Bool

/-- What a scripted run leaves behind. -/
structure Outcomes (μ : Type) where
  actor : Actor μ
  script : Script
  events : List Event

namespace Scenario

variable {μ : Type}

/-- The time on the clock when a scripted run starts, in nanoseconds: an hour. -/
def clock : Nat := 3600 * 1000000000

/-- What the world does at the point where the thread stands. -/
def answer (s : Scenario μ) (script : Script) (a : Actor μ) : Script.Answer :=
  match a.control with
  | .opening =>
    let answer := script.onOpen
    { answer with stops := answer.stops || s.ownerStops }
  | .arming => script.onTimeout
  | .receiving session => script.onReceive session.buffer.size
  | .taking _ => ⟨.done, (a.queue.head?.map s.stopsAt).getD false, script⟩
  | .sending _ _ _ => script.onSend
  | _ => ⟨.done, false, script⟩

/-- Runs the thread from the time `now` until it ends, for at most `fuel` steps. The clock
moves on only while the thread waits. Events come last first. -/
def runFor [WireMessage μ] (s : Scenario μ) : (fuel : Nat) → (now : Nat) → Script → Actor μ →
    List Event → Outcomes μ
  | 0, _, script, a, events => ⟨a, script, events⟩
  | fuel + 1, now, script, a, events =>
    if a.finished then ⟨a, script, events⟩
    else
      let now := a.due now
      let answer := s.answer script a
      let a := { a with stopping := a.stopping || answer.stops }
      let (a, new) := a.step s.setup now answer.reply
      runFor s fuel now answer.rest a (new.reverse ++ events)

/-- More steps than the thread can make: every listed call and every queued
message is gone after at most eight steps. -/
def stepBound (s : Scenario μ) : Nat := 8 * (s.script.length + s.queue.length) + 32

/-- Runs the thread until it ends. -/
def run [WireMessage μ] (s : Scenario μ) : Outcomes μ :=
  let r := s.runFor s.stepBound clock s.script (Actor.start s.queue) []
  { r with events := r.events.reverse }

end Scenario

namespace Outcomes

variable {μ : Type}

/-- How the thread ended. -/
def ending? (r : Outcomes μ) : Option Ending :=
  match r.actor.control with
  | .ended ending => some ending
  | _ => none

/-- The notes in order. -/
def notes (r : Outcomes μ) : List Note :=
  r.events.filterMap fun
    | .noted n => some n
    | _ => none

/-- The number of sockets opened, or tried. -/
def opens (r : Outcomes μ) : Nat := r.events.countP fun
  | .opened => true
  | _ => false

/-- The read timeouts set, or tried. -/
def timeouts (r : Outcomes μ) : List Duration :=
  r.events.filterMap fun
    | .timeoutSet d => some d
    | _ => none

/-- The frames handed to a socket. -/
def handed (r : Outcomes μ) : List (Bytes × Net.Address × Bool) :=
  r.events.filterMap fun
    | .handed frame peer accepted => some (frame, peer, accepted)
    | _ => none

end Outcomes
end Endpoint
end Tagram

/-
# Running the program on a host

A session carries out an invocation on a host: owner and threads take turns
until the owner is done. The clock moves on only while a thread waits for its
next socket. What the program prints and reports, what its exit
code is, and which datagrams arrive at a peer is its report. A datagram that
is waited for and does not arrive counts as an empty one.

A listening session has no end of its own. It is given the datagrams that
are sent to its address and what to watch for, and is interrupted when all of
that has been seen.

Key definitions: `Cli.Report`, `Cli.Watch`, `Cli.Session.send`,
`Cli.Session.listen`, `Cli.Session.run`.
-/
import Tagram.Cli.Arguments
import Tagram.Cli.Listener
import Tagram.Cli.Sender
import Tagram.Endpoint.Hosted

namespace Tagram
namespace Cli

open Endpoint

/-- What a run of the program leaves behind. -/
structure Report where
  code : Nat
  stdout : List String
  /-- The first line on standard error that is no report. -/
  stderr : Option String
  /-- What the program itself reports, without its endpoints. -/
  notes : List (Level × String)
  /-- The datagrams that arrive at the peer. -/
  received : List Bytes

/-- What is watched from outside. -/
structure Watch where
  /-- The address at which datagrams are counted. -/
  peer : Net.Address
  /-- The datagrams that are waited for there. -/
  expected : Nat
  /-- The address that datagrams are sent to. -/
  target : Net.Address
  /-- The datagrams that are sent there. -/
  inbox : List Bytes
  /-- The command that has to be printed before an interrupt, if one comes. -/
  marker : Option Command
  /-- A text that has to be reported before an interrupt. -/
  awaited : Option String

namespace Session

/-- The report of a program that did not start. -/
def ofHalt (h : Halt) : Report :=
  ⟨h.code, h.output, h.errors.head?.map Text.firstLine, [], []⟩

/-- The report of a program that ended as its endpoint did. -/
def ofEnding (ending : Ending) (stdout : List String) (notes : List (Level × String))
    (received : List Bytes) : Report :=
  match ending.describe? with
  | none => ⟨0, stdout, none, notes, received⟩
  | some text => ⟨1, stdout, some ("Error: " ++ text), notes, received⟩

/-- The datagrams that events bring to the watched peer. -/
def arrivals (watch : Watch) (events : List Event) : List Bytes :=
  (events.filterMap Event.sent?).filterMap fun (peer, frame) =>
    if peer = watch.peer then some frame else none

/-- As many datagrams as are waited for, with empty ones for those that have not
arrived. -/
def waited (watch : Watch) (received : List Bytes) : List Bytes :=
  (received ++ List.replicate watch.expected []).take watch.expected

/-- Owner and thread take turns from the time `now` on, for at most `fuel` rounds. -/
def sendRounds (host : Net.Host) (setup : Setup Command) : (fuel : Nat) → (now : Nat) → Sender →
    Sender × List Event
  | 0, _, s => (s, [])
  | fuel + 1, now, s =>
    match s.stage with
    | .joined _ _ => (s, [])
    | _ =>
      let now := s.actor.due now
      let (reply, _) := hostReply host setup.config [] s.actor
      let (s, events) := s.run setup [.thread now reply, .owner]
      let (s, later) := sendRounds host setup fuel now s
      (s, events ++ later)

/-- Sends a command. `none` if the program does not end. -/
def send (host : Net.Host) (watch : Watch) (retry : RetryPolicy) (bind peer : Net.Address)
    (command : Command) (fuel : Nat) : Option Report :=
  let (s, events) :=
    sendRounds host (Sender.setup bind peer retry) fuel 0 (Sender.start [command])
  match s.stage with
  | .joined handed ending =>
    some (ofEnding ending [] [Sender.verdict peer command handed] (arrivals watch events))
  | _ => none

/-- Whether a note of an endpoint has the awaited text in it. -/
def isAwaited (text : String) (config : Config) (event : Event) : Bool :=
  match event with
  | .noted note => 1 < ((note.text config).splitOn text).length
  | _ => false

/-- How far a listening session is. -/
structure Listening where
  listener : Listener
  inbox : List Bytes
  received : List Bytes
  /-- Whether the awaited text was reported. -/
  reported : Bool
  /-- The time on the clock. -/
  now : Nat

/-- Whether all that is watched for has been seen. -/
def Listening.complete (watch : Watch) (s : Listening) : Bool :=
  match watch.marker with
  | none => false
  | some marker =>
    s.listener.printed.contains marker && watch.expected ≤ s.received.length && s.reported

/-- Owner, threads and an interrupt, if it is due, take a turn each. -/
def listenRound (host : Net.Host) (watch : Watch) (setups : Listener.Setups) (s : Listening) :
    Listening :=
  let sees (config : Config) (events : List Event) : Bool :=
    match watch.awaited with
    | none => true
    | some text => events.any (isAwaited text config)
  let now := s.listener.ingress.due s.now
  let (reply, inbox) := hostReply host setups.ingress.config s.inbox s.listener.ingress
  let (l, events) := s.listener.move setups (.thread .ingress now reply)
  let reported := s.reported || sees setups.ingress.config events
  let (l, sent, reported, now) :=
    match setups.egress, l.egress with
    | some setup, some a =>
      let now := a.due now
      let (reply, _) := hostReply host setup.config [] a
      let (l, events) := l.move setups (.thread .egress now reply)
      (l, arrivals watch events, reported || sees setup.config events, now)
    | _, _ => (l, [], reported, now)
  let s : Listening := ⟨l, inbox, s.received ++ sent, reported, now⟩
  let moves : List Listener.Move :=
    if s.complete watch then
      [.interrupt, .interruptThread .ingress, .interruptThread .egress, .owner]
    else [.owner]
  { s with listener := (s.listener.run setups moves).1 }

/-- Rounds until the owner is done, at most `fuel` of them. -/
def listenRounds (host : Net.Host) (watch : Watch) (setups : Listener.Setups) :
    (fuel : Nat) → Listening → Listening
  | 0, s => s
  | fuel + 1, s =>
    match s.listener.stage with
    | .returned _ => s
    | _ => listenRounds host watch setups fuel (listenRound host watch setups s)

/-- Listens. `none` if the program does not end. -/
def listen (host : Net.Host) (watch : Watch) (retry : RetryPolicy) (address : Net.Address)
    (forward : Option (Net.Address × Net.Address)) (fuel : Nat) : Option Report :=
  let s := listenRounds host watch (Listener.setups address forward retry) fuel
    ⟨Listener.start forward.isSome, watch.inbox, [], watch.awaited.isNone, 0⟩
  match s.listener.stage with
  | .returned ending =>
    let stdout := s.listener.printed.map Command.describe
    some (ofEnding ending stdout [Listener.greeting address] s.received)
  | _ => none

/-- The rounds after which a session counts as endless: enough to handle every
datagram, and for a number of retries. -/
def patience (watch : Watch) (retry : RetryPolicy) : Nat :=
  1000 + 16 * watch.inbox.flatten.length + 16 * min 10000 ((retry.maxRetries.getD 0).toNat)

/-- Runs the program with its arguments. `none` if it does not end, or if its
datagrams cannot be sent. -/
def run (host : Net.Host) (watch : Watch) (arguments : List String) : Option Report := do
  if !watch.inbox.isEmpty && (host.sendError? watch.peer watch.target).isSome then none
  let report ←
    match parse arguments with
    | .error halt => some (ofHalt halt)
    | .ok ⟨.listen address forward, retry⟩ =>
      listen host watch retry address forward (patience watch retry)
    | .ok ⟨.send bind peer command, retry⟩ =>
      send host watch retry bind peer command (patience watch retry)
  return { report with received := waited watch report.received }

end Session
end Cli
end Tagram

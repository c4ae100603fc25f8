/-
# Listening from the command line

The owner of a receiving endpoint loops: unless it is interrupted or the
endpoint's thread has ended, it takes all queued commands, prints them one
after another, and queues each at a forwarding endpoint if there is one.
Then it stops the endpoints and waits for them, the receiving one first. A
receiving endpoint that ended with an error is the error of the whole.

Owner and threads are one machine whose moves come in any order. An interrupt
raises the owner's flag and those of both threads, in turn.

Key definitions: `Cli.Listener`, `Cli.Listener.Move`, `Cli.Listener.move`,
`Cli.Listener.run`.
-/
import Tagram.Command.Text
import Tagram.Endpoint.Actor

namespace Tagram
namespace Cli

open Endpoint

namespace Listener

/-- What the owner does next. -/
inductive Stage where
  /-- Look whether an interrupt came. -/
  | looking
  /-- Ask whether the receiving thread has ended. -/
  | asking
  /-- Take all commands off the queue. -/
  | draining
  /-- Print the next of these commands. -/
  | printing (rest : List Command)
  /-- Queue a command for forwarding. -/
  | forwarding (command : Command) (rest : List Command)
  /-- Ask the receiving thread to stop. -/
  | stopping
  /-- Wait for the receiving thread. -/
  | joining
  /-- Ask the forwarding thread to stop. -/
  | stoppingForward (ending : Ending)
  /-- Wait for the forwarding thread. -/
  | joiningForward (ending : Ending)
  | returned (ending : Ending)

/-- The threads. -/
inductive Thread where
  | ingress
  | egress
  deriving DecidableEq

/-- What happens next. -/
inductive Move where
  | owner
  /-- A step of a thread, with the time and the socket's reply. -/
  | thread (t : Thread) (now : Nat) (reply : Reply)
  /-- An interrupt raises the owner's flag. -/
  | interrupt
  /-- An interrupt raises the flag of a thread. -/
  | interruptThread (t : Thread)

/-- The settings of the endpoints. -/
structure Setups where
  ingress : Setup Command
  egress : Option (Setup Command)

end Listener

/-- The owner and its threads. -/
structure Listener where
  stage : Listener.Stage
  interrupted : Bool
  /-- The commands printed so far. -/
  printed : List Command
  ingress : Actor Command
  /-- The forwarding thread. -/
  egress : Option (Actor Command)

namespace Listener

/-- Before the first move. -/
def start (forwards : Bool) : Listener :=
  ⟨.looking, false, [], Actor.start [], if forwards then some (Actor.start []) else none⟩

/-- A thread that is asked to stop. -/
def stopped (a : Actor Command) : Actor Command := { a with stopping := true }

/-- A move of the owner. When the receiving thread has ended with an error the
forwarding thread is still stopped, but how it ends no longer matters. -/
def own (l : Listener) : Listener :=
  match l.stage with
  | .looking => { l with stage := if l.interrupted then .stopping else .asking }
  | .asking => { l with stage := if l.ingress.finished then .stopping else .draining }
  | .draining => { l with stage := .printing l.ingress.queue, ingress.queue := [] }
  | .printing [] => { l with stage := .looking }
  | .printing (c :: rest) =>
    { l with stage := .forwarding c rest, printed := l.printed ++ [c] }
  | .forwarding c rest =>
    { l with
      stage := .printing rest
      egress := l.egress.map fun a => { a with queue := a.queue ++ [c] } }
  | .stopping => { l with stage := .joining, ingress := stopped l.ingress }
  | .joining =>
    match l.ingress.control with
    | .ended ending => { l with stage := .stoppingForward ending }
    | _ => l
  | .stoppingForward ending =>
    { l with stage := .joiningForward ending, egress := l.egress.map stopped }
  | .joiningForward ending =>
    match l.egress with
    | none => { l with stage := .returned ending }
    | some a =>
      match a.control with
      | .ended later =>
        { l with stage := .returned (if ending = .stopped then later else ending) }
      | _ => l
  | .returned _ => l

/-- One move, and what a thread does in it that can be seen. -/
def move (setups : Setups) (l : Listener) : Move → Listener × List Event
  | .owner => (l.own, [])
  | .thread .ingress now reply =>
    let (a, events) := l.ingress.step setups.ingress now reply
    ({ l with ingress := a }, events)
  | .thread .egress now reply =>
    match setups.egress, l.egress with
    | some setup, some a =>
      let (a, events) := a.step setup now reply
      ({ l with egress := some a }, events)
    | _, _ => (l, [])
  | .interrupt => ({ l with interrupted := true }, [])
  | .interruptThread .ingress => ({ l with ingress := stopped l.ingress }, [])
  | .interruptThread .egress => ({ l with egress := l.egress.map stopped }, [])

/-- Moves in any order. -/
def run (setups : Setups) (l : Listener) : List Move → Listener × List Event
  | [] => (l, [])
  | m :: rest =>
    let (l, events) := l.move setups m
    let (l, later) := run setups l rest
    (l, events ++ later)

/-- The settings of the endpoints. -/
def setups (address : Net.Address) (forward : Option (Net.Address × Net.Address))
    (retry : RetryPolicy) : Setups where
  ingress := ⟨{ address := address, role := .ingress, retry := retry }, Command.registry⟩
  egress := forward.map fun (bind, peer) =>
    ⟨{ address := bind, role := .egress peer, retry := retry }, Registry.empty⟩

/-- What the owner reports before its loop. -/
def greeting (address : Net.Address) : Level × String := (.info, s!"listening at {address.text}")

end Listener
end Cli
end Tagram

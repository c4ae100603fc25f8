/-
# Sending from the command line

The owner of a sending endpoint queues its commands, then looks again and
again until the queue is empty or the endpoint's thread has ended, and says
whether the commands were handed over: they were if the queue is empty at the
end. Only then does it ask the thread to stop, and waits for it.

The thread may be anywhere between two looks: it may have taken a command off
the queue and not yet handed it to the socket. Owner and thread are one
machine whose moves come in any order, and an interrupt may ask the thread to
stop at any time.

Key definitions: `Cli.Sender`, `Cli.Sender.Move`, `Cli.Sender.move`,
`Cli.Sender.run`.
-/
import Tagram.Command.Text
import Tagram.Endpoint.Actor

namespace Tagram
namespace Cli

open Endpoint

namespace Sender

/-- What the owner does next. -/
inductive Stage where
  /-- Queue the next of these commands. -/
  | pushing (rest : List Command)
  /-- Look whether the queue is empty. -/
  | looking
  /-- Ask whether the thread has ended. -/
  | asking
  /-- Look once more and decide. -/
  | deciding
  /-- Ask the thread to stop. -/
  | stopping (handed : Bool)
  /-- Wait for the thread. -/
  | joining (handed : Bool)
  | joined (handed : Bool) (ending : Ending)

/-- What happens next. -/
inductive Move where
  | owner
  /-- A step of the thread, with the time and the socket's reply. -/
  | thread (now : Nat) (reply : Reply)
  | interrupt

end Sender

/-- The owner and the thread. -/
structure Sender where
  stage : Sender.Stage
  actor : Actor Command

namespace Sender

/-- Before the first move. -/
def start (commands : List Command) : Sender := ⟨.pushing commands, Actor.start []⟩

/-- What the owner has decided. -/
def handed? (s : Sender) : Option Bool :=
  match s.stage with
  | .stopping handed | .joining handed | .joined handed _ => some handed
  | _ => none

/-- A move of the owner. -/
def own (s : Sender) : Sender :=
  match s.stage with
  | .pushing [] => { s with stage := .looking }
  | .pushing (c :: rest) =>
    { s with stage := .pushing rest, actor.queue := s.actor.queue ++ [c] }
  | .looking => { s with stage := if s.actor.queue.isEmpty then .deciding else .asking }
  | .asking => { s with stage := if s.actor.finished then .deciding else .looking }
  | .deciding => { s with stage := .stopping s.actor.queue.isEmpty }
  | .stopping handed => { s with stage := .joining handed, actor.stopping := true }
  | .joining handed =>
    match s.actor.control with
    | .ended ending => { s with stage := .joined handed ending }
    | _ => s
  | .joined _ _ => s

/-- One move, and what the thread does in it that can be seen. -/
def move (setup : Setup Command) (s : Sender) : Move → Sender × List Event
  | .owner => (s.own, [])
  | .thread now reply =>
    let (actor, events) := s.actor.step setup now reply
    ({ s with actor := actor }, events)
  | .interrupt => ({ s with actor.stopping := true }, [])

/-- Moves in any order. -/
def run (setup : Setup Command) (s : Sender) : List Move → Sender × List Event
  | [] => (s, [])
  | m :: rest =>
    let (s, events) := s.move setup m
    let (s, later) := run setup s rest
    (s, events ++ later)

/-- The settings of the endpoint. -/
def setup (bind peer : Net.Address) (retry : RetryPolicy) : Setup Command :=
  ⟨{ address := bind, role := .egress peer, retry := retry }, Registry.empty⟩

/-- What the owner reports about a command. -/
def verdict (peer : Net.Address) (command : Command) (handed : Bool) : Level × String :=
  if handed then (.info, s!"handed {command.describe} to the socket for {peer.text}")
  else (.warn, s!"{command.describe} was never handed to the socket for {peer.text}")

end Sender
end Cli
end Tagram

/-
# The program

Reads its arguments, carries them out with the operating system's sockets, and
exits. Owner and threads take turns: a round is one move of each, and the next
round comes a millisecond later.

Key definitions: `main`.
-/
import Std.Async.Signal
import Tagram.Cli.Session
import Tagram.Net.Socket

namespace Tagram
namespace Program

open Endpoint Cli

/-- A thread with its socket. -/
structure Worker where
  setup : Setup Command
  socket : Option Net.Socket

/-- A thread that has not run yet. -/
def Worker.new (setup : Setup Command) : Worker := ⟨setup, none⟩

/-- Prints a report to standard error, unless it is of little importance. -/
def report (level : Level) (text : String) : IO Unit :=
  match level with
  | .trace | .debug => pure ()
  | _ => IO.eprintln s!"[{level.name} {text}]"

/-- Prints what a thread reports. -/
def reportEvents (config : Config) (events : List Event) : IO Unit :=
  events.forM fun
    | .noted note => report note.level (note.text config)
    | _ => pure ()

/-- The turn of a thread: what its socket replies, and the time on the clock. -/
def turn (w : Worker) (a : Actor Command) : IO (Worker × Nat × Reply) := do
  let (socket, reply) ← Net.Socket.call w.setup.config a.control w.socket
  return ({ w with socket := socket }, ← IO.monoNanosNow, reply)

/-- Sends until the owner is done. -/
partial def sendLoop (interrupted : IO Bool) (w : Worker) (s : Sender) (peer : Net.Address)
    (command : Command) : IO Ending := do
  match s.stage with
  | .joined _ ending => return ending
  | _ =>
    let s := if ← interrupted then (s.move w.setup .interrupt).1 else s
    let (w, now, reply) ← turn w s.actor
    let (s, events) := s.move w.setup (.thread now reply)
    reportEvents w.setup.config events
    let before := s.handed?
    let s := s.own
    if let (none, some handed) := (before, s.handed?) then
      let (level, text) := Sender.verdict peer command handed
      report level text
    IO.sleep 1
    sendLoop interrupted w s peer command

/-- Listens until the owner is done. -/
partial def listenLoop (interrupted : IO Bool) (setups : Listener.Setups) (w : Worker)
    (forward : Option Worker) (l : Listener) : IO Ending := do
  match l.stage with
  | .returned ending => return ending
  | _ =>
    let l :=
      if ← interrupted then
        (l.run setups [.interrupt, .interruptThread .ingress, .interruptThread .egress]).1
      else l
    let (w, now, reply) ← turn w l.ingress
    let (l, events) := l.move setups (.thread .ingress now reply)
    reportEvents w.setup.config events
    let (forward, l) ←
      match forward, l.egress with
      | some f, some a => do
        let (f, now, reply) ← turn f a
        let (l, events) := l.move setups (.thread .egress now reply)
        reportEvents f.setup.config events
        pure (some f, l)
      | _, _ => pure (forward, l)
    let printed := l.printed.length
    let l := l.own
    (l.printed.drop printed).forM fun c => IO.println c.describe
    (← IO.getStdout).flush
    IO.sleep 1
    listenLoop interrupted setups w forward l

/-- Carries out what the arguments ask for. -/
def carryOut (interrupted : IO Bool) : Invocation → IO Ending
  | ⟨.send bind peer command, retry⟩ =>
    sendLoop interrupted (.new (Sender.setup bind peer retry)) (Sender.start [command]) peer command
  | ⟨.listen address forward, retry⟩ => do
    let setups := Listener.setups address forward retry
    let (level, text) := Listener.greeting address
    report level text
    listenLoop interrupted setups (.new setups.ingress) (setups.egress.map .new)
      (Listener.start forward.isSome)

end Program
end Tagram

open Tagram Cli in
/-- Runs the program and returns its exit code. -/
def main (arguments : List String) : IO UInt32 := do
  match parse arguments with
  | .error halt =>
    halt.output.forM fun line => IO.println line
    halt.errors.forM fun line => IO.eprintln line
    return UInt32.ofNat halt.code
  | .ok invocation =>
    let signal ← Std.Async.Signal.Waiter.mk .sigint false
    let task ← signal.wait
    let ending ← Program.carryOut (IO.hasFinished task) invocation
    let result := Session.ofEnding ending [] [] []
    result.stderr.forM fun line => IO.eprintln line
    return UInt32.ofNat result.code

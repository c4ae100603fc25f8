/-
# Commands across an unreliable network

Two endpoints are linked by a network: one sends commands, the other receives
them. The network may lose, repeat and reorder the datagrams that are handed to
it, and the receiver's buffer may be too small for them. Both endpoints have
owners that use their queues and stop them at any time, and sockets that fail
at any time.

A link moves one step at a time. Its state keeps which datagrams were
delivered, so what the receiver queues can be compared with what the sender
took (`Link.Sound`). `Link.run_delivers` draws the conclusion for every run:
each delivery brings the command that its datagram was encoded from, or nothing
if the datagram was cut, and never an error.

Key definitions: `Wiring`, `Link`, `Link.Move`, `Link.move`, `Link.run`,
`Link.brought?`, `Link.Settled`.
Key theorems: `Link.Sound.move`, `Link.sound_run`, `Link.run_delivers`.
-/
import Tagram.Proofs.RoundTrip
import Tagram.Proofs.ThreadLife

namespace Tagram

theorem Command.writable_eq (cs : List Command) : Frame.writable cs = cs.map Frame.ofMessage := by
  have h : (fun c : Command => (Frame.encode c).toOption) = fun c => some (Frame.ofMessage c) := by
    funext c
    rw [c.encode_eq]
    rfl
  rw [Frame.writable, h, List.filterMap_eq_map']

namespace Endpoint

/-- The settings of two endpoints, one that sends to `peer` and one that
receives with the built-in decoders. -/
structure Wiring where
  /-- The sender's settings but for its role. -/
  source : Config
  peer : Net.Address
  /-- The sender's registry, which it has no use for. -/
  registry : Registry Command
  /-- The receiver's settings but for its role. -/
  target : Config

namespace Wiring

def sender (w : Wiring) : Setup Command := ⟨{ w.source with role := .egress w.peer }, w.registry⟩

def receiver (w : Wiring) : Setup Command := ⟨{ w.target with role := .ingress }, Command.registry⟩

/-- The size of the receiver's buffer. -/
def bufferSize (w : Wiring) : Nat := w.target.bufferSize

end Wiring

/-- Two threads, and the datagrams that went from one to the other. -/
structure Link where
  sender : Life Command
  receiver : Life Command
  /-- The deliveries in their order, each by the place that its datagram has among
  those handed to the network. -/
  deliveries : List Nat

namespace Link

/-- What happens on a link. -/
inductive Move where
  /-- The sender makes a step. -/
  | send (now : Nat) (reply : Reply)
  | push (commands : List Command)
  | stopSender
  /-- The receiver makes a step that brings no datagram. -/
  | receive (now : Nat) (reply : Reply)
  /-- The network delivers the datagram that was handed to it in this place. -/
  | deliver (now : Nat) (place : Nat)
  | pop
  | drain
  | stopReceiver

/-- Nothing has happened yet: the sender has `queue` to send, and the receiver's
queue holds `inbox`. -/
def start (queue inbox : List Command) : Link := ⟨.start queue, .start inbox, []⟩

/-- One move. A move that is not possible changes nothing: only the network
brings datagrams, only those that were handed to it, and only to a receiver
that waits for one. -/
def move (w : Wiring) (l : Link) : Move → Link
  | .send now reply => { l with sender := l.sender.after w.sender (.step now reply) }
  | .push commands => { l with sender := l.sender.after w.sender (.push commands) }
  | .stopSender => { l with sender := l.sender.after w.sender .stop }
  | .receive now reply =>
    if (l.receiver.actor.incoming? reply).isSome then l
    else { l with receiver := l.receiver.after w.receiver (.step now reply) }
  | .deliver now place =>
    match l.receiver.actor.control, l.sender.handed[place]? with
    | .receiving _, some d =>
      { l with
        receiver := l.receiver.after w.receiver
          (.step now (.received d (min d.length w.bufferSize)))
        deliveries := l.deliveries ++ [place] }
    | _, _ => l
  | .pop => { l with receiver := l.receiver.after w.receiver .pop }
  | .drain => { l with receiver := l.receiver.after w.receiver .drain }
  | .stopReceiver => { l with receiver := l.receiver.after w.receiver .stop }

/-- Moves one after another. -/
def run (w : Wiring) (queue inbox : List Command) (moves : List Move) : Link :=
  moves.foldl (move w) (start queue inbox)

/-- What the sender's owner pushes in a move. -/
def Move.pushed : Move → List Command
  | .push commands => commands
  | _ => []

/-- What the sender's owner pushes. -/
def pushes (moves : List Move) : List Command := moves.flatMap Move.pushed

/-- What a delivery brings: the command that its datagram was encoded from,
unless the datagram is longer than the receiver's buffer. -/
def brought? (w : Wiring) (l : Link) (place : Nat) : Option Command :=
  match l.sender.removed[place]?, l.sender.handed[place]? with
  | some c, some d => if d.length ≤ w.bufferSize then some c else none
  | _, _ => none

/-! ### What every run keeps -/

theorem move_deliver {l : Link} {s : Session} {place : Nat} {d : Bytes} (w : Wiring) (now : Nat)
    (hc : l.receiver.actor.control = .receiving s) (hd : l.sender.handed[place]? = some d) :
    l.move w (.deliver now place) =
      { l with
        receiver := l.receiver.after w.receiver
          (.step now (.received d (min d.length w.bufferSize)))
        deliveries := l.deliveries ++ [place] } := by
  simp only [move, hc, hd]

/-- What holds at every moment. -/
structure Sound (w : Wiring) (queue inbox pushed : List Command) (l : Link) : Prop where
  sends : l.sender.Sends w.sender queue pushed
  receives : l.receiver.Receives w.receiver inbox
  delivered : ∀ place ∈ l.deliveries, place < l.sender.handed.length
  /-- What arrived are the delivered datagrams, cut to the size of the buffer. -/
  arrived : l.receiver.received = l.deliveries.filterMap fun place =>
    l.sender.handed[place]?.map (·.take w.bufferSize)
  clean : ∀ e ∈ l.receiver.events, e.isDecodeError = false

namespace Sound

variable {w : Wiring} {queue inbox pushed : List Command} {l : Link}

theorem start (w : Wiring) (queue inbox : List Command) :
    Sound w queue inbox [] (Link.start queue inbox) where
  sends := .start w.sender queue
  receives := .start w.receiver inbox
  delivered _ h := nomatch h
  arrived := rfl
  clean _ h := nomatch h

/-- **A datagram is the frame of a command**, the one that was taken off the
queue in its place. -/
theorem original (h : Sound w queue inbox pushed l) {place : Nat} {d : Bytes}
    (hd : l.sender.handed[place]? = some d) :
    ∃ c, l.sender.removed[place]? = some c ∧ d = Frame.ofMessage c := by
  obtain ⟨lost, hw, -⟩ := h.sends.frames
  obtain ⟨hlt, -⟩ := List.getElem?_eq_some_iff.1 hd
  have hmap : (l.sender.removed.map Frame.ofMessage)[place]? = some d := by
    rw [← Command.writable_eq, hw, List.append_assoc, List.getElem?_append_left hlt, hd]
  rw [List.getElem?_map, Option.map_eq_some_iff] at hmap
  obtain ⟨c, hc, rfl⟩ := hmap
  exact ⟨c, hc, rfl⟩

theorem of_sender (h : Sound w queue inbox pushed l) {s : Life Command} {pushed' : List Command}
    (hs : s.Sends w.sender queue pushed') (hp : l.sender.handed <+: s.handed) :
    Sound w queue inbox pushed' { l with sender := s } where
  sends := hs
  receives := h.receives
  delivered place hm := Nat.lt_of_lt_of_le (h.delivered place hm) hp.length_le
  arrived := by
    rw [h.arrived]
    refine List.filterMap_congr fun place hm => ?_
    obtain ⟨more, hmore⟩ := hp
    rw [← hmore, List.getElem?_append_left (h.delivered place hm)]
  clean := h.clean

theorem of_receiver (h : Sound w queue inbox pushed l) {r : Life Command}
    (hr : r.Receives w.receiver inbox) (hsame : r.received = l.receiver.received)
    (hclean : ∀ e ∈ r.events, e.isDecodeError = false) :
    Sound w queue inbox pushed { l with receiver := r } where
  sends := h.sends
  receives := hr
  delivered := h.delivered
  arrived := hsame.trans h.arrived
  clean := hclean

/-- A delivered datagram is found in the buffer, cut to its size. -/
theorem incoming?_eq (h : Sound w queue inbox pushed l) {s : Session} (d : Bytes)
    (hc : l.receiver.actor.control = .receiving s) :
    l.receiver.actor.incoming? (.received d (min d.length w.bufferSize)) =
      some (d.take w.bufferSize) := by
  have hs : s.buffer.size = w.bufferSize := h.receives.sized s (by rw [hc]; rfl)
  simp only [Actor.incoming?, hc]
  rw [← hs]
  exact s.buffer.front?_fill d

/-- What decoding makes of the datagram in a place, cut to the buffer's size: the
command that it was encoded from, or nothing, and no fault. -/
theorem decode_cut (h : Sound w queue inbox pushed l) {place : Nat} {d : Bytes}
    (hd : l.sender.handed[place]? = some d) :
    (Datagram.decode Command.registry (d.take w.bufferSize)).messages =
      (l.brought? w place).toList ∧
    (Datagram.decode Command.registry (d.take w.bufferSize)).stop = .incomplete := by
  obtain ⟨c, hc, rfl⟩ := h.original hd
  obtain ⟨h1, h2⟩ := Datagram.decode_take c.encode_eq
    (Command.recovers (Registry.extends_refl _) c) w.bufferSize
  refine ⟨?_, h2⟩
  rw [h1]
  simp only [brought?, hc, hd]
  split_ifs <;> rfl

/-- **After a delivery the receiver has in hand what the delivery brought.** -/
theorem actor_deliver (h : Sound w queue inbox pushed l) {s : Session} {place : Nat} {d : Bytes}
    (now : Nat) (hc : l.receiver.actor.control = .receiving s)
    (hd : l.sender.handed[place]? = some d) :
    (l.move w (.deliver now place)).receiver.actor =
      l.receiver.actor.goto
        (.queueing ⟨true, s.buffer.fill d⟩ (l.brought? w place).toList) := by
  have hf : (s.buffer.fill d).front? (min d.length w.bufferSize) = some (d.take w.bufferSize) := by
    have hin := h.incoming?_eq d hc
    simpa only [Actor.incoming?, hc] using hin
  obtain ⟨h1, h2⟩ := h.decode_cut hd
  have hstep : l.receiver.actor.step w.receiver now (.received d (min d.length w.bufferSize)) =
      l.receiver.actor.receive w.receiver now s d (min d.length w.bufferSize) := by
    simp only [Actor.step, hc]
  rw [move_deliver w now hc hd]
  simp only [Life.after]
  rw [hstep, Actor.receive_of_decoded now hf (by simp [Wiring.receiver, h2]), ← h1]
  rfl

/-- A step reports no decoding error if the datagram that it gets decodes to its
end. -/
theorem clean_step (h : Sound w queue inbox pushed l) (now : Nat) (reply : Reply)
    (hin : ∀ d, l.receiver.actor.incoming? reply = some d →
      (Datagram.decode Command.registry d).stop = .incomplete) :
    ∀ e ∈ (l.receiver.after w.receiver (.step now reply)).events, e.isDecodeError = false := by
  simp only [Life.after]
  rw [List.forall_mem_append]
  refine ⟨h.clean, fun e he => ?_⟩
  by_contra herr
  obtain ⟨d, hd, hstop⟩ := (Actor.stepped w.receiver now reply l.receiver.actor).clean e he
    (Bool.not_eq_false _ ▸ herr)
  exact hstop (hin d hd)

/-- **A delivery brings what it should** and reports no decoding error. -/
theorem deliver (h : Sound w queue inbox pushed l) {s : Session} {place : Nat} {d : Bytes}
    (now : Nat) (hc : l.receiver.actor.control = .receiving s)
    (hd : l.sender.handed[place]? = some d) :
    Sound w queue inbox pushed
      { l with
        receiver := l.receiver.after w.receiver
          (.step now (.received d (min d.length w.bufferSize)))
        deliveries := l.deliveries ++ [place] } where
  sends := h.sends
  receives := h.receives.step rfl now _
  delivered := by
    rw [List.forall_mem_append, List.forall_mem_singleton]
    exact ⟨h.delivered, (List.getElem?_eq_some_iff.1 hd).1⟩
  arrived := by
    simp only [Life.after, h.incoming?_eq d hc, List.filterMap_append, ← h.arrived]
    simp [hd]
  clean := h.clean_step now _ fun d' hd' => by
    rw [h.incoming?_eq d hc] at hd'
    cases hd'
    exact (h.decode_cut hd).2

theorem receive (h : Sound w queue inbox pushed l) (now : Nat) {reply : Reply}
    (hin : l.receiver.actor.incoming? reply = none) :
    Sound w queue inbox pushed
      { l with receiver := l.receiver.after w.receiver (.step now reply) } := by
  refine h.of_receiver (h.receives.step rfl now reply) ?_ (h.clean_step now reply fun d hd => ?_)
  · simp only [Life.after, hin, Option.toList_none, List.append_nil]
  · rw [hin] at hd
    cases hd

/-- **One move keeps the link sound.** -/
theorem move (h : Sound w queue inbox pushed l) (m : Move) :
    Sound w queue inbox (pushed ++ m.pushed) (l.move w m) := by
  have hnil : m.pushed = [] → Sound w queue inbox pushed (l.move w m) →
      Sound w queue inbox (pushed ++ m.pushed) (l.move w m) := fun hm hs => by
    rwa [hm, List.append_nil]
  cases m with
  | push commands => exact h.of_sender (h.sends.push commands) (Life.handed_after ..)
  | send now reply =>
    exact hnil rfl (h.of_sender (h.sends.step rfl now reply) (Life.handed_after ..))
  | stopSender => exact hnil rfl (h.of_sender h.sends.stop (Life.handed_after ..))
  | receive now reply =>
    refine hnil rfl ?_
    rw [Link.move]
    split_ifs with hin
    · exact h
    · exact h.receive now (by simpa using hin)
  | deliver now place =>
    refine hnil rfl ?_
    rw [Link.move]
    split
    · rename_i hc hd
      exact h.deliver now hc hd
    · exact h
  | pop => exact hnil rfl (h.of_receiver h.receives.pop rfl h.clean)
  | drain => exact hnil rfl (h.of_receiver h.receives.drain rfl h.clean)
  | stopReceiver => exact hnil rfl (h.of_receiver h.receives.stop rfl h.clean)

/-- **What the receiver queues is what the deliveries brought**, in their order. -/
theorem queued (h : Sound w queue inbox pushed l) :
    l.receiver.added ++ l.receiver.actor.control.pending =
      l.deliveries.filterMap (l.brought? w) := by
  have hone : ∀ place ∈ l.deliveries,
      (l.sender.handed[place]?.map (·.take w.bufferSize)).toList.flatMap
        (Datagram.yield Command.registry) = (l.brought? w place).toList := by
    intro place hm
    have hd := List.getElem?_eq_getElem (h.delivered place hm)
    obtain ⟨h1, h2⟩ := h.decode_cut hd
    rw [hd, Option.map_some, Option.toList_some, List.flatMap_singleton,
      Datagram.yield_of_decoded (by simp [h2]), h1]
  rw [h.receives.decoded, h.arrived, List.filterMap_eq_flatMap_toList, List.flatMap_assoc,
    List.filterMap_eq_flatMap_toList]
  exact List.flatMap_congr hone

theorem foldl (h : Sound w queue inbox pushed l) (moves : List Move) :
    Sound w queue inbox (pushed ++ pushes moves) (moves.foldl (Link.move w) l) := by
  induction moves generalizing l pushed with
  | nil => simpa [pushes] using h
  | cons m moves ih =>
    have hm := ih (h.move m)
    rwa [List.append_assoc] at hm

end Sound

/-- **Every run is sound.** -/
theorem sound_run (w : Wiring) (queue inbox : List Command) (moves : List Move) :
    Sound w queue inbox (pushes moves) (run w queue inbox moves) :=
  (Sound.start w queue inbox).foldl moves

/-! ### A network that loses nothing -/

/-- Everything was sent and received: the sender has no command left, every
datagram was delivered once and in order, and the receiver has queued what came
in. -/
structure Settled (l : Link) : Prop where
  emptied : l.sender.actor.queue = []
  sent : l.sender.actor.control.unsent = []
  unaborted : l.sender.actor.control ≠ .ended .aborted
  carried : l.deliveries = List.range l.sender.handed.length
  stored : l.receiver.actor.control.pending = []

theorem filterMap_range_getElem? {α : Type} (xs : List α) :
    (List.range xs.length).filterMap (fun i => xs[i]?) = xs := by
  induction xs with
  | nil => rfl
  | cons x xs ih =>
    rw [List.length_cons, List.range_succ_eq_map, List.filterMap_cons, List.filterMap_map]
    simpa using ih

/-- **Then the receiver has queued the sender's commands**, in order. -/
theorem Sound.added_of_settled {w : Wiring} {queue inbox pushed : List Command} {l : Link}
    (h : Sound w queue inbox pushed l) (hs : l.Settled) (hb : 41 ≤ w.bufferSize) :
    l.receiver.added = queue ++ pushed := by
  obtain ⟨lost, hw, hlost⟩ := h.sends.frames
  have hnil : lost = [] := by
    by_contra hne
    exact hs.unaborted (hlost hne)
  have hframes : l.sender.handed = l.sender.removed.map Frame.ofMessage := by
    rw [← Command.writable_eq, hw, hs.sent, hnil, List.append_nil, List.append_nil]
  have htaken : l.sender.removed = queue ++ pushed := by
    have hk := h.sends.kept
    rwa [Life.Kept, hs.emptied, List.append_nil, h.sends.added] at hk
  have hbrought : ∀ place, l.brought? w place = l.sender.removed[place]? := by
    intro place
    rw [brought?, hframes, List.getElem?_map]
    rcases l.sender.removed[place]? with _ | c
    · rfl
    · simp only [Option.map_some]
      rw [if_pos (Nat.le_trans c.length_ofMessage_le hb)]
  have hqueued := h.queued
  rw [hs.stored, List.append_nil, hs.carried, hframes, List.length_map,
    List.filterMap_congr fun place _ => hbrought place, filterMap_range_getElem?] at hqueued
  rw [hqueued, htaken]

/-- A move without a failure on a link that nobody else uses. -/
def Move.smooth : Move → Bool
  | .send _ .done | .receive _ .done | .deliver _ _ => true
  | _ => false

/-- Both threads are in a session, the sender has these commands left, and
everything else was delivered. -/
structure Ready (commands : List Command) (l : Link) : Prop where
  sender : ∃ failures s, l.sender.actor = ⟨commands, false, failures, .serving s⟩
  receiver : ∃ stored failures s, l.receiver.actor = ⟨stored, false, failures, .serving s⟩
  carried : l.deliveries = List.range l.sender.handed.length

/-- Both threads open their sockets. -/
def openings : List Move :=
  [.send 0 .done, .send 0 .done, .send 0 .done, .receive 0 .done, .receive 0 .done, .receive 0 .done]

/-- The sender takes a command and hands its frame over; the network delivers
it, and the receiver queues the command. -/
def round (place : Nat) : List Move :=
  [.send 0 .done, .send 0 .done, .send 0 .done, .receive 0 .done, .deliver 0 place,
    .receive 0 .done]

theorem ready_openings {w : Wiring} (hb : w.bufferSize < allocationLimit)
    (queue inbox : List Command) :
    Ready queue (openings.foldl (move w) (start queue inbox)) := by
  refine ⟨⟨_, _, rfl⟩, ⟨inbox, 0, ⟨false, .zeroed w.bufferSize⟩, ?_⟩, rfl⟩
  have h : (openings.foldl (move w) (start queue inbox)).receiver.actor =
      (⟨inbox, false, 0, if w.bufferSize < allocationLimit then
        .serving ⟨false, .zeroed w.bufferSize⟩ else .ended .aborted⟩ : Actor Command) := rfl
  rw [h, if_pos hb]

theorem move_send_next {w : Wiring} {l : Link} {c : Command} {commands : List Command}
    {failures : Nat} {s : Session}
    (h : l.sender.actor = ⟨c :: commands, false, failures, .serving s⟩) :
    ∃ sender, [Move.send 0 .done, .send 0 .done, .send 0 .done].foldl (move w) l =
        { l with sender := sender } ∧
      sender.actor = ⟨commands, false, failures, .serving { s with progressed := true }⟩ ∧
      sender.handed = l.sender.handed ++ [Frame.ofMessage c] := by
  obtain ⟨⟨actor, events, added, removed, arrived⟩, receiver, deliveries⟩ := l
  obtain rfl : actor = ⟨c :: commands, false, failures, .serving s⟩ := h
  have htake : Actor.step w.sender 0 .done ⟨c :: commands, false, failures, .taking s⟩ =
      (⟨commands, false, failures, .sending s (WireMessage.tag c) (Frame.ofMessage c)⟩, []) := by
    simp [Actor.step, Actor.take, c.aborts_eq, c.encode_eq, Actor.goto]
  have hsend : Actor.step w.sender 0 .done
      ⟨commands, false, failures, .sending s (WireMessage.tag c) (Frame.ofMessage c)⟩ =
        (⟨commands, false, failures, .serving { s with progressed := true }⟩,
          [.handed (Frame.ofMessage c) w.peer true,
            .noted (.sent (WireMessage.tag c) (Frame.ofMessage c).length w.peer)]) := rfl
  have hserve : Actor.step w.sender 0 .done ⟨c :: commands, false, failures, .serving s⟩ =
      (⟨c :: commands, false, failures, .taking s⟩, []) := rfl
  refine ⟨_, rfl, ?_, ?_⟩
  · simp only [move, Life.after, hserve, htake, hsend]
  · simp only [move, Life.after, Life.handed, hserve, htake, hsend, List.append_nil, framesOf_append]
    rfl

theorem move_receive_next {w : Wiring} {queue inbox pushed : List Command} {l : Link}
    (h : Sound w queue inbox pushed l) {stored : List Command} {failures : Nat} {s : Session}
    (hr : l.receiver.actor = ⟨stored, false, failures, .serving s⟩) (place : Nat)
    (hp : place < l.sender.handed.length) :
    ∃ receiver, [Move.receive 0 .done, .deliver 0 place, .receive 0 .done].foldl (move w) l =
        { l with receiver := receiver, deliveries := l.deliveries ++ [place] } ∧
      ∃ stored s, receiver.actor = ⟨stored, false, failures, .serving s⟩ := by
  -- Neither before the wait nor after it does a reply bring a datagram.
  have h1 : l.move w (.receive 0 .done) =
      { l with receiver := l.receiver.after w.receiver (.step 0 .done) } := by
    simp [move, Actor.incoming?, hr]
  have hwait : (l.move w (.receive 0 .done)).receiver.actor =
      ⟨stored, false, failures, .receiving s⟩ := by
    rw [h1]
    simp only [Life.after, hr]
    rfl
  set l1 := l.move w (.receive 0 .done) with hl1
  have hs1 : Sound w queue inbox (pushed ++ []) l1 := h.move (.receive 0 .done)
  have hd : l1.sender.handed[place]? = some (l.sender.handed[place]) := by
    rw [h1]
    exact List.getElem?_eq_getElem hp
  have h2 := move_deliver w 0 (by rw [hwait]) hd
  have hact := hs1.actor_deliver 0 (by rw [hwait]) hd
  set l2 := l1.move w (.deliver 0 place) with hl2
  have h3 : l2.move w (.receive 0 .done) =
      { l2 with receiver := l2.receiver.after w.receiver (.step 0 .done) } := by
    simp [move, Actor.incoming?, hact, Actor.goto]
  have hsender : l2.sender = l.sender := by rw [h2, h1]
  have hdeliveries : l2.deliveries = l.deliveries ++ [place] := by rw [h2, h1]
  refine ⟨l2.receiver.after w.receiver (.step 0 .done), ?_, ?_⟩
  · show l2.move w (.receive 0 .done) = _
    rw [h3, hsender, hdeliveries]
  · simp only [Life.after, hact, hwait, Actor.goto, Actor.step]
    exact ⟨_, _, rfl⟩

/-- One round leaves one command less. -/
theorem Ready.round {w : Wiring} {queue inbox pushed : List Command} {l : Link} {c : Command}
    {commands : List Command} (h : Sound w queue inbox pushed l) (hr : Ready (c :: commands) l) :
    Ready commands ((Link.round l.sender.handed.length).foldl (Link.move w) l) := by
  obtain ⟨failures, s, hs⟩ := hr.sender
  obtain ⟨stored, failures', s', hs'⟩ := hr.receiver
  obtain ⟨sender, hsend, hactor, hhanded⟩ := @move_send_next w _ _ _ _ _ hs
  have hsound : Sound w queue inbox pushed { l with sender := sender } := by
    have hm := h.foldl [Move.send 0 .done, .send 0 .done, .send 0 .done]
    rwa [hsend, show pushes [Move.send 0 .done, .send 0 .done, .send 0 .done] = [] from rfl,
      List.append_nil] at hm
  obtain ⟨receiver, hreceive, stored', s'', hr'⟩ := move_receive_next hsound hs'
    l.sender.handed.length (by simp [hhanded])
  have hround : (Link.round l.sender.handed.length).foldl (Link.move w) l =
      ⟨sender, receiver, l.deliveries ++ [l.sender.handed.length]⟩ := by
    show [Move.receive 0 .done, .deliver 0 l.sender.handed.length, .receive 0 .done].foldl
      (Link.move w) ([Move.send 0 .done, .send 0 .done, .send 0 .done].foldl (Link.move w) l) = _
    rw [hsend, hreceive]
  rw [hround]
  refine ⟨⟨_, _, hactor⟩, ⟨_, _, _, hr'⟩, ?_⟩
  rw [hhanded, List.length_append, List.length_singleton, List.range_succ, hr.carried]

/-- **A link without failures settles**, whatever the sender has queued. -/
theorem Ready.exists_settled {w : Wiring} {queue inbox : List Command} :
    ∀ (commands : List Command) {l : Link}, Sound w queue inbox [] l → Ready commands l →
      ∃ moves : List Move, (∀ m ∈ moves, m.smooth = true) ∧ (moves.foldl (Link.move w) l).Settled
  | [], l, _, hr => by
    obtain ⟨failures, s, hs⟩ := hr.sender
    obtain ⟨stored, failures', s', hs'⟩ := hr.receiver
    refine ⟨[], (fun _ h => nomatch h), ?_⟩
    exact {
      emptied := by rw [List.foldl_nil, hs]
      sent := by rw [List.foldl_nil, hs]; rfl
      unaborted := by rw [List.foldl_nil, hs]; simp
      carried := hr.carried
      stored := by rw [List.foldl_nil, hs']; rfl }
  | c :: commands, l, h, hr => by
    have hround := h.foldl (Link.round l.sender.handed.length)
    rw [show pushes (Link.round l.sender.handed.length) = [] from rfl] at hround
    obtain ⟨moves, hsmooth, hsettled⟩ := exists_settled commands hround (hr.round h)
    refine ⟨Link.round l.sender.handed.length ++ moves, ?_, ?_⟩
    · rw [List.forall_mem_append]
      exact ⟨by simp [Link.round, Move.smooth], hsmooth⟩
    · rwa [List.foldl_append]

/-! ### The link as a whole -/

/-- **Safety over an unreliable network**, whatever the sockets reply, the network delivers and
the owners do. A delivery brings the command that its datagram was encoded from, or
nothing if it was cut, and never a fault. Once everything was sent and received the
receiver has queued the sender's commands in order, and without failures this moment can
be reached. -/
theorem run_delivers (w : Wiring) (queue inbox : List Command) :
    (∀ moves, let l := run w queue inbox moves
      (l.sender.removed ++ l.sender.actor.queue = queue ++ pushes moves ∧
        ∀ (place : Nat) (d : Bytes), l.sender.handed[place]? = some d →
          ∃ c : Command, l.sender.removed[place]? = some c ∧ Frame.encode c = .ok d) ∧
      (∀ (now place : Nat) (s : Session) (d : Bytes), l.receiver.actor.control = .receiving s →
        l.sender.handed[place]? = some d →
        ∃ c s', l.sender.removed[place]? = some c ∧
          (l.move w (.deliver now place)).receiver.actor.control =
            .queueing s' (if d.length ≤ w.bufferSize then [c] else []) ∧
          (l.move w (.deliver now place)).deliveries = l.deliveries ++ [place]) ∧
      (l.receiver.added ++ l.receiver.actor.control.pending =
          l.deliveries.filterMap (l.brought? w) ∧
        l.receiver.removed ++ l.receiver.actor.queue = inbox ++ l.receiver.added) ∧
      (∀ e ∈ l.receiver.events, e.isDecodeError = false) ∧
      (l.Settled → 41 ≤ w.bufferSize → l.receiver.added = queue ++ pushes moves)) ∧
    (w.bufferSize < allocationLimit →
      ∃ moves, (∀ m ∈ moves, m.smooth = true) ∧ (run w queue inbox moves).Settled) := by
  refine ⟨fun moves => ?_, fun hb => ?_⟩
  · have h := sound_run w queue inbox moves
    set l := run w queue inbox moves
    refine ⟨⟨?_, fun place d hd => ?_⟩, fun now place s d hc hd => ?_, ⟨h.queued, h.receives.kept⟩,
      h.clean, fun hs hb => h.added_of_settled hs hb⟩
    · rw [h.sends.kept, h.sends.added]
    · obtain ⟨c, hc, rfl⟩ := h.original hd
      exact ⟨c, hc, c.encode_eq⟩
    · obtain ⟨c, hc', -⟩ := h.original hd
      refine ⟨c, ⟨true, s.buffer.fill d⟩, hc', ?_, by rw [move_deliver w now hc hd]⟩
      rw [h.actor_deliver now hc hd]
      simp only [Actor.goto, brought?, hc', hd]
      split_ifs <;> rfl
  · have hopen := (Sound.start w queue inbox).foldl openings
    obtain ⟨moves, hsmooth, hs⟩ := Ready.exists_settled queue hopen (ready_openings hb queue inbox)
    refine ⟨openings ++ moves, ?_, ?_⟩
    · rw [List.forall_mem_append]
      exact ⟨by simp [openings, Move.smooth], hsmooth⟩
    · rwa [run, List.foldl_append]

/-- Two endpoints on one host, the receiver with a buffer of 30 bytes. -/
def narrow : Wiring where
  source := { address := .v4 127 0 0 1 9001, role := .ingress }
  peer := .v4 127 0 0 1 9000
  registry := .empty
  target := { address := .v4 127 0 0 1 9000, role := .ingress, bufferSize := 30 }

/-- The second datagram overtakes the first and comes twice, and a wait runs out
in between. -/
def overtaken : List Move :=
  [openings, List.replicate 6 (.send 0 .done),
    [.receive 0 .done, .deliver 0 1, .receive 0 .done],
    [.receive 0 .done, .receive 0 (.failed (.ofKind .wouldBlock))],
    [.receive 0 .done, .deliver 0 0, .receive 0 .done],
    [.receive 0 .done, .deliver 0 1, .receive 0 .done]].flatten

/-- The frame of the move has 36 bytes and is cut; that of the input is not. -/
theorem run_delivers_overtaken :
    (run narrow [.move 7 ⟨0⟩ ⟨0⟩, .input 1] [] overtaken).deliveries = [1, 0, 1] ∧
    (run narrow [.move 7 ⟨0⟩ ⟨0⟩, .input 1] [] overtaken).receiver.added ++
      (run narrow [.move 7 ⟨0⟩ ⟨0⟩, .input 1] [] overtaken).receiver.actor.control.pending =
        [.input 1, .input 1] := by
  have h := ((run_delivers narrow [.move 7 ⟨0⟩ ⟨0⟩, .input 1] []).1 overtaken).2.2.1.1
  exact ⟨by decide +kernel, h.trans (by decide +kernel)⟩

end Link
end Endpoint
end Tagram

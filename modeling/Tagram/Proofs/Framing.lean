/-
# Framing a datagram exactly

A report tells the truth about its datagram (`decode_exact`): the bytes up to
where decoding stopped are whole frames end to end, one for each message, and
what stands behind them is cut off or at fault, as the report says.

A division into whole frames is unique (`pieces_unique`), since a frame's first
eight bytes say how long it is. So a datagram is complete in exactly one way.

Decoding is also a loop that asks for the frame at a place and goes on behind
it. `loop` is that loop for any way of asking, with a bound on the number of
calls. With the reporting parser it ends after one call more than there are
messages, with the report's answer (`loop_advance`); with the parser that gives
no reasons it ends after the same calls at the same place (`loop_parseOrStay`).

Key definitions: `Frame.WellFormed`, `Datagram.loop`, `Datagram.advance`,
`Datagram.Stop.unsaid`.
Key theorems: `Datagram.pieces_unique`, `Datagram.Row.pieces`,
`Datagram.loop_row`, `Datagram.loop_advance`, `Datagram.loop_parseOrStay`,
`Datagram.decode_exact`.
-/
import Tagram.Proofs.FrameRow

namespace Tagram

variable {μ : Type}

theorem Probe.registry_total : Probe.registry.Total := by
  intro tag d hd s reason
  rw [Probe.registry, Registry.find?_register] at hd
  split_ifs at hd with h
  · cases hd
    simp
  · cases hd

/-! ### Whole frames -/

namespace Frame

variable {registry : Registry μ}

/-- `piece` is a whole frame: the length, the length of an ASCII tag, the tag, and
a payload that the tag's decoder reads to its last byte as the message `m`. -/
def WellFormed (registry : Registry μ) (piece : Bytes) (m : μ) : Prop :=
  ∃ (tag : String) (payload : Bytes) (d : Decoder μ),
    Bytes.isAscii (Bytes.ofText tag) = true ∧
    8 + (Bytes.ofText tag).length + payload.length < 2 ^ 64 ∧
    piece = bytes (Bytes.ofText tag) payload ∧
    registry.find? tag = some d ∧ d payload = .ok (m, payload.length)

theorem wellFormed_iff {piece : Bytes} {m : μ} :
    WellFormed registry piece m ↔ ∃ tag region, region.length < 2 ^ 64 ∧
      Holds registry tag m region ∧
      piece = Bytes.toBigEndian lengthField region.length ++ region := by
  constructor
  · rintro ⟨tag, payload, d, ha, hl, rfl, hd, ho⟩
    have hbody : (body (Bytes.ofText tag) payload).length < 2 ^ 64 := by
      rw [length_body]
      exact hl
    exact ⟨tag, _, hbody, ⟨payload, d, ha, rfl, hd, ho⟩, bytes_eq ..⟩
  · rintro ⟨tag, _, hl, ⟨payload, d, ha, rfl, hd, ho⟩, rfl⟩
    rw [length_body] at hl
    exact ⟨tag, payload, d, ha, hl, (bytes_eq ..).symm, hd, ho⟩

theorem WellFormed.le_length {piece : Bytes} {m : μ} (h : WellFormed registry piece m) :
    16 ≤ piece.length := by
  obtain ⟨tag, payload, d, -, -, rfl, -, -⟩ := h
  rw [length_bytes]
  omega

theorem WellFormed.flatten_ne_nil {piece : Bytes} {m : μ} (h : WellFormed registry piece m)
    (pieces : List Bytes) : (piece :: pieces).flatten ≠ [] := by
  have hpos := h.le_length
  rw [List.flatten_cons, ← List.length_pos_iff, List.length_append]
  omega

theorem Opens.unique {region region' s : Bytes} (h : Opens region s) (h' : Opens region' s) :
    region = region' := by
  obtain ⟨rest, hs⟩ := h.eq_append
  obtain ⟨rest', hs'⟩ := h'.eq_append
  rw [List.append_assoc] at hs hs'
  have hl := length?_append (region ++ rest) h.1
  have hl' := length?_append (region' ++ rest') h'.1
  rw [← hs] at hl
  rw [← hs'] at hl'
  obtain ⟨hlength, hrest⟩ : region.length = region'.length ∧ region ++ rest = region' ++ rest' := by
    rw [hl] at hl'
    simpa using hl'
  exact (List.append_inj hrest hlength).1

/-- A framed region at a place of a datagram is open there, and what follows it begins
behind it. -/
theorem opens_drop {region later datagram : Bytes} {place : Nat} (hsize : region.length < 2 ^ 64)
    (h : datagram.drop place = Bytes.toBigEndian lengthField region.length ++ region ++ later) :
    Opens region (datagram.drop place) ∧
      datagram.drop (place + (lengthField + region.length)) = later := by
  constructor
  · rw [h]
    exact opens_append hsize later
  · rw [← List.drop_drop, h, List.drop_left' (length_framed region)]

/-- **Of two whole frames in front of some bytes neither is the longer one**, and
they hold the same message. -/
theorem WellFormed.unique {piece piece' rest rest' : Bytes} {m m' : μ}
    (h : WellFormed registry piece m) (h' : WellFormed registry piece' m')
    (he : piece ++ rest = piece' ++ rest') : piece = piece' ∧ m = m' ∧ rest = rest' := by
  obtain ⟨tag, region, hsize, hholds, rfl⟩ := wellFormed_iff.1 h
  obtain ⟨tag', region', hsize', hholds', rfl⟩ := wellFormed_iff.1 h'
  have hopens := opens_append hsize rest
  rw [he] at hopens
  obtain rfl := hopens.unique (opens_append hsize' rest')
  have hsame := decode_of_holds hsize hholds
  rw [decode_of_holds hsize hholds'] at hsame
  refine ⟨rfl, ?_, List.append_cancel_left he⟩
  cases hsame
  rfl

end Frame

namespace Datagram

variable {registry : Registry μ} {offset : Nat} {frames : List (Placed μ)} {used rest : Bytes}
  {stop : Stop}

/-- **There is one way to cut bytes into whole frames.** -/
theorem pieces_unique {pieces pieces' : List Bytes} {ms ms' : List μ}
    (h : List.Forall₂ (Frame.WellFormed registry) pieces ms)
    (h' : List.Forall₂ (Frame.WellFormed registry) pieces' ms')
    (he : pieces.flatten = pieces'.flatten) : pieces = pieces' ∧ ms = ms' := by
  induction h generalizing pieces' ms' with
  | nil =>
    cases h' with
    | nil => exact ⟨rfl, rfl⟩
    | cons hpiece _ => exact absurd he.symm (hpiece.flatten_ne_nil _)
  | cons hpiece _ ih =>
    cases h' with
    | nil => exact absurd he (hpiece.flatten_ne_nil _)
    | cons hpiece' hlater' =>
      rw [List.flatten_cons, List.flatten_cons] at he
      obtain ⟨rfl, rfl, hrest⟩ := hpiece.unique hpiece' he
      obtain ⟨rfl, rfl⟩ := ih hlater' hrest
      exact ⟨rfl, rfl⟩

theorem Row.pieces (h : Row registry offset frames used) :
    ∃ pieces : List Bytes, used = pieces.flatten ∧
      List.Forall₂ (Frame.WellFormed registry) pieces (frames.map (·.message)) := by
  induction h with
  | nil => exact ⟨[], rfl, .nil⟩
  | @cons offset tag m region later frames hsize hregion _ ih =>
    obtain ⟨pieces, rfl, hpieces⟩ := ih
    refine ⟨(Bytes.toBigEndian lengthField region.length ++ region) :: pieces, ?_, ?_⟩
    · rw [List.flatten_cons]
    · exact .cons (Frame.wellFormed_iff.2 ⟨tag, region, hsize, hregion, rfl⟩) hpieces

theorem exists_row_of_pieces {pieces : List Bytes} {ms : List μ}
    (h : List.Forall₂ (Frame.WellFormed registry) pieces ms) (offset : Nat) :
    ∃ frames, Row registry offset frames pieces.flatten ∧ frames.map (·.message) = ms := by
  induction h generalizing offset with
  | nil => exact ⟨[], .nil offset, rfl⟩
  | cons hpiece _ ih =>
    obtain ⟨tag, region, hsize, hregion, rfl⟩ := Frame.wellFormed_iff.1 hpiece
    obtain ⟨frames, hrow, rfl⟩ := ih (offset + (lengthField + region.length))
    rw [List.flatten_cons]
    exact ⟨_, .cons hsize hregion hrow, rfl⟩

/-- Every frame of a row takes sixteen bytes or more. -/
theorem Row.le_length (h : Row registry offset frames used) : 16 * frames.length ≤ used.length := by
  induction h with
  | nil => exact Nat.le_refl 0
  | @cons offset tag m region later frames hsize hregion _ ih =>
    have hfirst := (Frame.wellFormed_iff.2 ⟨tag, region, hsize, hregion, rfl⟩).le_length
    rw [List.length_cons, List.length_append]
    omega

theorem consumed_le (registry : Registry μ) (datagram : Bytes) :
    (decode registry datagram).consumed ≤ datagram.length := by
  have hbound := (decodeFrom_bounds registry 0 datagram).2
  rwa [Nat.zero_add] at hbound

/-- **The report's place divides the datagram** into a row of the report's frames and
something at which decoding halts, for the report's reason. -/
theorem row_and_halts (registry : Registry μ) (datagram : Bytes) :
    Row registry 0 (decode registry datagram).frames
      (datagram.take (decode registry datagram).consumed) ∧
    Halts registry (datagram.drop (decode registry datagram).consumed)
      (decode registry datagram).stop := by
  obtain ⟨used, rest, hs, hrow, hconsumed, hhalts⟩ := exists_row_report registry datagram
  have hused : datagram.take (decode registry datagram).consumed = used := by
    rw [hconsumed]
    conv_lhs => rw [hs]
    exact List.take_left' rfl
  have hrest : datagram.drop (decode registry datagram).consumed = rest := by
    rw [hconsumed]
    conv_lhs => rw [hs]
    exact List.drop_left' rfl
  rw [hused, hrest]
  exact ⟨hrow, hhalts⟩

/-- **A datagram is complete exactly when it is whole frames end to end.** -/
theorem isComplete_iff {datagram : Bytes} :
    (decode registry datagram).isComplete = true ↔
      ∃ (pieces : List Bytes) (ms : List μ), datagram = pieces.flatten ∧
        List.Forall₂ (Frame.WellFormed registry) pieces ms := by
  constructor
  · intro h
    obtain ⟨pieces, hs, hpieces⟩ := (row_of_isComplete h).pieces
    exact ⟨pieces, _, hs, hpieces⟩
  · rintro ⟨pieces, ms, rfl, hpieces⟩
    obtain ⟨frames, hrow, -⟩ := exists_row_of_pieces hpieces 0
    have hend : Halts registry [] .incomplete := .incomplete (.inl (by decide))
    have hreport := decode_of_row hrow hend
    rw [List.append_nil] at hreport
    rw [hreport]
    simp [Report.isComplete, Report.fault?, Report.trailing]

/-! ### The framing loop -/

/-- Asks for the frame at a place and goes on behind it, for as long as there is
one: the messages, where that ended and why. There is no answer if it takes more
than so many calls. -/
def loop (next : Nat → Outcome (Option μ × Nat)) : Nat → Nat → Option (List μ × Nat × Stop)
  | 0, _ => none
  | calls + 1, place =>
    match next place with
    | .ok (some m, after) => (loop next calls after).map fun (ms, stop) => (m :: ms, stop)
    | .ok (none, after) => some ([], after, .incomplete)
    | .error cause => some ([], place, .fault cause)
    | .abort reason => some ([], place, .aborted reason)

/-- The frame at a place, provided that it ends further on. -/
def advance (registry : Registry μ) (datagram : Bytes) (place : Nat) :
    Outcome (Option μ × Nat) :=
  (Frame.parse registry datagram place).map fun
    | some (m, next) => if place < next then (some m, next) else (none, place)
    | none => (none, place)

/-- What is left of the reason when errors are not told. -/
def Stop.unsaid : Stop → Stop
  | .aborted reason => .aborted reason
  | _ => .incomplete

variable {datagram : Bytes} {place : Nat}

/-- **Every frame that is found moves the place on**, by sixteen or more. -/
theorem le_of_parse {m : μ} {next : Nat}
    (h : Frame.parse registry datagram place = .ok (some (m, next))) : place + 16 ≤ next := by
  obtain ⟨g, hh, -, rfl⟩ := Frame.head_of_parse h
  have hlength := (Frame.length_of_head hh).1
  omega

theorem advance_of_parse {m : μ} {next : Nat}
    (h : Frame.parse registry datagram place = .ok (some (m, next))) :
    advance registry datagram place = .ok (some m, next) := by
  have hle := le_of_parse h
  have hlt : place < next := by omega
  simp only [advance, h, Outcome.map_ok, if_pos hlt]

theorem parseOrStay_of_parse {m : μ} {next : Nat}
    (h : Frame.parse registry datagram place = .ok (some (m, next))) :
    Frame.parseOrStay registry datagram place = .ok (some m, next) := by
  simp only [Frame.parseOrStay, h]

theorem parse_of_halts (h : Halts registry (datagram.drop place) stop) :
    Frame.parse registry datagram place = stop.answer := by
  rw [Frame.parse, halts_iff.1 h]
  cases stop <;> rfl

/-- **The loop goes through a row in one call for each frame**, if it is told of
every frame that the parser finds. -/
theorem loop_row {next : Nat → Outcome (Option μ × Nat)}
    (hnext : ∀ place m after, Frame.parse registry datagram place = .ok (some (m, after)) →
      next place = .ok (some m, after))
    (h : Row registry offset frames used) (hd : datagram.drop offset = used ++ rest)
    (calls : Nat) :
    loop next calls offset =
      if frames.length ≤ calls then
        (loop next (calls - frames.length) (offset + used.length)).map fun (ms, stop) =>
          (frames.map (·.message) ++ ms, stop)
      else none := by
  induction h generalizing calls with
  | nil => simp
  | @cons offset tag m region later frames hsize hregion _ ih =>
    rw [List.append_assoc] at hd
    obtain ⟨hopens, hlater⟩ := Frame.opens_drop hsize hd
    have hparse := hnext offset m _ (Frame.parse_eq_some.2 ⟨tag, region, hopens, hregion, rfl⟩)
    cases calls with
    | zero => rfl
    | succ calls =>
      have hplace : offset + (lengthField + region.length) + later.length =
          offset + (Bytes.toBigEndian lengthField region.length ++ region ++ later).length := by
        rw [List.length_append, Frame.length_framed, Nat.add_assoc]
      rw [loop, hparse]
      simp only [ih hlater calls, hplace, List.length_cons, Nat.add_le_add_iff_right,
        Nat.add_sub_add_right, List.map_cons, List.cons_append]
      split_ifs
      · rw [Option.map_map]
        rfl
      · rfl

/-- **The loop from the start of a datagram**, for a way of asking that is told of
every frame and ends with `final` where decoding stops: it takes one call more than
there are messages. -/
theorem loop_decode {next : Nat → Outcome (Option μ × Nat)} {final : Stop}
    (hnext : ∀ place m after, Frame.parse registry datagram place = .ok (some (m, after)) →
      next place = .ok (some m, after))
    (hfinal : ∀ calls, loop next (calls + 1) (decode registry datagram).consumed =
      some ([], (decode registry datagram).consumed, final)) (calls : Nat) :
    loop next calls 0 =
      if (decode registry datagram).messages.length < calls then
        some ((decode registry datagram).messages, (decode registry datagram).consumed, final)
      else none := by
  have hs : datagram.drop 0 = datagram.take (decode registry datagram).consumed ++
      datagram.drop (decode registry datagram).consumed := (List.take_append_drop ..).symm
  have hmessages : (decode registry datagram).messages.length =
      (decode registry datagram).frames.length := List.length_map ..
  rw [loop_row hnext (row_and_halts registry datagram).1 hs calls, Nat.zero_add,
    List.length_take_of_le (consumed_le registry datagram), hmessages]
  by_cases hlt : (decode registry datagram).frames.length < calls
  · obtain ⟨k, hk⟩ := Nat.exists_eq_add_of_lt hlt
    have hleft : calls - (decode registry datagram).frames.length = k + 1 := by omega
    rw [if_pos hlt.le, if_pos hlt, hleft, hfinal]
    simp only [Option.map_some, List.append_nil, Report.messages]
  · -- The calls go on frames alone, or are too few even for these.
    rw [if_neg hlt]
    split_ifs with hle
    · have hnone : calls - (decode registry datagram).frames.length = 0 := by omega
      rw [hnone]
      rfl
    · rfl

theorem parse_consumed (registry : Registry μ) (datagram : Bytes) :
    Frame.parse registry datagram (decode registry datagram).consumed =
      (decode registry datagram).stop.answer :=
  parse_of_halts (row_and_halts registry datagram).2

/-- **The loop over the reporting parser gives the report.** -/
theorem loop_advance (registry : Registry μ) (datagram : Bytes) (calls : Nat) :
    loop (advance registry datagram) calls 0 =
      if (decode registry datagram).messages.length < calls then
        some ((decode registry datagram).messages, (decode registry datagram).consumed,
          (decode registry datagram).stop)
      else none := by
  refine loop_decode (fun _ _ _ h => advance_of_parse h) (fun k => ?_) calls
  have hparse := parse_consumed registry datagram
  rw [loop, advance, hparse]
  cases (decode registry datagram).stop <;> rfl

/-- **The loop over the parser that gives no reasons** reads the same messages and
ends at the same place. -/
theorem loop_parseOrStay (registry : Registry μ) (datagram : Bytes) (calls : Nat) :
    loop (Frame.parseOrStay registry datagram) calls 0 =
      if (decode registry datagram).messages.length < calls then
        some ((decode registry datagram).messages, (decode registry datagram).consumed,
          (decode registry datagram).stop.unsaid)
      else none := by
  refine loop_decode (fun _ _ _ h => parseOrStay_of_parse h) (fun k => ?_) calls
  have hparse := parse_consumed registry datagram
  rw [loop, Frame.parseOrStay, hparse]
  cases (decode registry datagram).stop <;> rfl

/-! ### The report -/

theorem stop_of_total (ht : registry.Total) (datagram : Bytes) :
    (decode registry datagram).stop = .incomplete ∨
      ∃ cause, (decode registry datagram).stop = .fault cause := by
  have hparse := parse_consumed registry datagram
  cases hstop : (decode registry datagram).stop with
  | incomplete => exact .inl rfl
  | fault cause => exact .inr ⟨cause, rfl⟩
  | aborted reason =>
    rw [hstop] at hparse
    exact absurd hparse (Frame.parse_ne_abort ht datagram _ reason)

theorem fault?_eq_some_iff (registry : Registry μ) (datagram : Bytes) (cause : CodecError) :
    (decode registry datagram).fault? = some cause ↔
      Frame.parse registry datagram (decode registry datagram).consumed = .error cause := by
  rw [Report.fault?_eq_some, parse_consumed]
  cases (decode registry datagram).stop <;> simp [Stop.answer]

theorem fault?_eq_none_iff (ht : registry.Total) (datagram : Bytes) :
    (decode registry datagram).fault? = none ↔
      Frame.Incomplete (datagram.drop (decode registry datagram).consumed) := by
  rw [← @Frame.parse_eq_none _ registry, parse_consumed]
  rcases stop_of_total ht datagram with h | ⟨cause, h⟩
  · simp [Report.fault?, Stop.answer, h]
  · simp [Report.fault?, Stop.answer, h]

/-- **The report on a datagram is exact, and the two framing loops agree**, if no decoder
aborts. The bytes before the report's place are whole frames end to end, in the one way
to cut them so, and both loops get there in one call more than there are messages. -/
theorem decode_exact (registry : Registry μ) (ht : registry.Total) (datagram : Bytes) :
    (∀ calls, loop (advance registry datagram) calls 0 =
      if (decode registry datagram).messages.length < calls then
        some ((decode registry datagram).messages, (decode registry datagram).consumed,
          (decode registry datagram).stop)
      else none) ∧
    (∀ reason, (decode registry datagram).stop ≠ .aborted reason) ∧
    (decode registry datagram).length = datagram.length ∧
    (decode registry datagram).consumed ≤ datagram.length ∧
    (decode registry datagram).consumed + (decode registry datagram).trailing = datagram.length ∧
    (∀ place m next, Frame.parse registry datagram place = .ok (some (m, next)) →
      place + 16 ≤ next) ∧
    16 * (decode registry datagram).messages.length ≤ (decode registry datagram).consumed ∧
    (∃ pieces : List Bytes,
      datagram.take (decode registry datagram).consumed = pieces.flatten ∧
      List.Forall₂ (Frame.WellFormed registry) pieces (decode registry datagram).messages) ∧
    ((decode registry datagram).fault? = none ↔
      datagram.length - (decode registry datagram).consumed < 8 ∨
      datagram.length - (decode registry datagram).consumed - 8 <
        sizeAt datagram (decode registry datagram).consumed) ∧
    (∀ cause, (decode registry datagram).fault? = some cause ↔
      Frame.parse registry datagram (decode registry datagram).consumed = .error cause) ∧
    ((decode registry datagram).isComplete = true ↔
      ∃ (pieces : List Bytes) (ms : List μ), datagram = pieces.flatten ∧
        List.Forall₂ (Frame.WellFormed registry) pieces ms) ∧
    (∀ (pieces pieces' : List Bytes) (ms ms' : List μ),
      List.Forall₂ (Frame.WellFormed registry) pieces ms →
      List.Forall₂ (Frame.WellFormed registry) pieces' ms' →
      pieces.flatten = pieces'.flatten → pieces = pieces' ∧ ms = ms') ∧
    ∀ calls, loop (Frame.parseOrStay registry datagram) calls 0 =
      if (decode registry datagram).messages.length < calls then
        some ((decode registry datagram).messages, (decode registry datagram).consumed,
          .incomplete)
      else none := by
  have hrow := (row_and_halts registry datagram).1
  have hle := consumed_le registry datagram
  have hstop := stop_of_total ht datagram
  refine ⟨loop_advance registry datagram, fun reason h => ?_, rfl, hle, Nat.add_sub_cancel' hle,
    fun place m next => le_of_parse, ?_, hrow.pieces, ?_,
    fault?_eq_some_iff registry datagram, isComplete_iff, fun _ _ _ _ => pieces_unique,
    fun calls => ?_⟩
  · rcases hstop with hstop | ⟨cause, hstop⟩ <;> simp [hstop] at h
  · have hlength := hrow.le_length
    rwa [List.length_take_of_le hle, ← List.length_map] at hlength
  · rw [fault?_eq_none_iff ht, Frame.Incomplete, List.length_drop]
    rfl
  · rw [loop_parseOrStay]
    rcases hstop with hstop | ⟨cause, hstop⟩ <;> rw [hstop] <;> rfl

/-- A probe and then a frame whose tag has no decoder: both loops end after two
calls, at the strange frame, and the report is not complete. -/
theorem decode_exact_strange :
    Probe.registry.Total ∧
    loop (advance Probe.registry strange) 1 0 = none ∧
    loop (advance Probe.registry strange) 2 0 =
      some ([⟨7, false⟩], 18, .fault (.unknownTag "Q")) ∧
    loop (Frame.parseOrStay Probe.registry strange) 2 0 = some ([⟨7, false⟩], 18, .incomplete) ∧
    (decode Probe.registry strange).trailing = 18 ∧
    Frame.parse Probe.registry strange 18 = .error (.unknownTag "Q") ∧
    ¬ ∃ (pieces : List Bytes) (ms : List Probe), strange = pieces.flatten ∧
      List.Forall₂ (Frame.WellFormed Probe.registry) pieces ms := by
  obtain ⟨hloop, -, -, -, htrailing, -, -, -, -, hfault, hcomplete, -, hstay⟩ :=
    decode_exact Probe.registry Probe.registry_total strange
  rw [decode_strange] at hloop htrailing hfault hcomplete hstay
  refine ⟨Probe.registry_total, hloop 1, hloop 2, hstay 2, ?_, (hfault _).1 rfl, ?_⟩
  · rw [decode_strange]
    rfl
  · rw [← hcomplete]
    decide

end Datagram
end Tagram

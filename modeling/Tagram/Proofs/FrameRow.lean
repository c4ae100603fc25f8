/-
# Datagrams as rows of frames

A datagram is a row of whole frames and then something at which decoding halts:
bytes that end too early, a region at fault, or a region whose decoder aborts.
`Row` says what a row of frames is without the decoder, `Halts` what stands
behind it, and decoding finds exactly this division (`decodeFrom_eq_iff`).

The division shows which bytes matter. A row and a region that is open behind it
are found whatever follows them, so decoding fails closed (`decode_failClosed`):
no byte behind the first bad frame has any influence, and cutting a datagram
takes messages off its end and never makes an error.

It also shows that nothing depends on where a frame lies: a row that is moved is
a row (`Row.moved`), so a datagram behind one that frames fill is decoded as if
it stood alone (`decode_concat`).

Key definitions: `Datagram.Row`, `Datagram.Halts`, `Datagram.sizeAt`,
`Datagram.Placed.moved`.
Key theorems: `Datagram.halts_iff`, `Datagram.decodeFrom_row`,
`Datagram.exists_row`, `Datagram.decodeFrom_eq_iff`,
`Datagram.decode_failClosed`, `Frame.walk_skip`, `Datagram.decodeFrom_moved`,
`Datagram.decode_concat`.
-/
import Tagram.Proofs.RoundTrip

namespace Tagram

variable {μ : Type}

namespace Frame

theorem Opens.eq_append {region s : Bytes} (h : Opens region s) :
    ∃ rest, s = Bytes.toBigEndian lengthField region.length ++ region ++ rest := by
  obtain ⟨-, rest, rfl⟩ := h
  exact ⟨rest, rfl⟩

theorem opens_append {region : Bytes} (h : region.length < 2 ^ 64) (rest : Bytes) :
    Opens region (Bytes.toBigEndian lengthField region.length ++ region ++ rest) :=
  ⟨h, List.prefix_append ..⟩

theorem length_framed (region : Bytes) :
    (Bytes.toBigEndian lengthField region.length ++ region).length =
      lengthField + region.length := by
  rw [List.length_append, Bytes.length_toBigEndian]

end Frame

namespace Datagram

/-! ### Rows of frames -/

/-- The bytes are whole frames end to end, which hold the messages of `frames`;
the first of them starts at `offset`. -/
inductive Row (registry : Registry μ) : Nat → List (Placed μ) → Bytes → Prop where
  | nil (offset : Nat) : Row registry offset [] []
  | cons {offset : Nat} {tag : String} {m : μ} {region later : Bytes} {frames : List (Placed μ)}
    (hsize : region.length < 2 ^ 64) (hregion : Frame.Holds registry tag m region)
    (hlater : Row registry (offset + (lengthField + region.length)) frames later) :
    Row registry offset (⟨tag, m, offset, offset + (lengthField + region.length)⟩ :: frames)
      (Bytes.toBigEndian lengthField region.length ++ region ++ later)

/-- Why no further frame is read off the front of some bytes. -/
inductive Halts (registry : Registry μ) : Bytes → Stop → Prop where
  | incomplete {s : Bytes} (h : Frame.Incomplete s) : Halts registry s .incomplete
  | fault {s region : Bytes} {cause : CodecError} (hopens : Frame.Opens region s)
    (h : Frame.Faulty registry region cause) : Halts registry s (.fault cause)
  | aborted {s region : Bytes} {reason : Option String} (hopens : Frame.Opens region s)
    (h : Frame.decode registry region.length region = .abort reason) :
    Halts registry s (.aborted reason)

variable {registry : Registry μ} {offset : Nat} {frames : List (Placed μ)} {used rest s : Bytes}
  {stop : Stop}

/-- What a parser answers where decoding halts. -/
def Stop.answer {α : Type} : Stop → Outcome (Option α)
  | .incomplete => .ok none
  | .fault cause => .error cause
  | .aborted reason => .abort reason

/-- **Decoding halts exactly where no frame is read**, and why is what the answer
says. -/
theorem halts_iff : Halts registry s stop ↔ Frame.head registry s = stop.answer := by
  constructor
  · intro h
    cases h with
    | incomplete h => exact Frame.head_eq_none.2 h
    | fault hopens h => exact Frame.head_eq_error.2 ⟨_, hopens, h⟩
    | aborted hopens h =>
      rw [Frame.head_of_opens registry hopens, h]
      rfl
  · intro h
    cases stop with
    | incomplete => exact .incomplete (Frame.head_eq_none.1 h)
    | fault cause =>
      obtain ⟨region, hopens, hfaulty⟩ := Frame.head_eq_error.1 h
      exact .fault hopens hfaulty
    | aborted reason =>
      rcases Frame.incomplete_or_opens s with hshort | ⟨region, hopens⟩
      · rw [Frame.head_of_incomplete registry hshort] at h
        cases h
      · refine .aborted hopens ?_
        rw [Frame.head_of_opens registry hopens] at h
        cases hd : Frame.decode registry region.length region <;> simp_all [Stop.answer]

theorem decodeFrom_of_halts (h : Halts registry s stop) (offset : Nat) :
    decodeFrom registry offset s = ([], offset, stop) := by
  rw [decodeFrom, halts_iff.1 h]
  cases stop <;> rfl

/-- **A row in front is read frame by frame**, and then decoding goes on behind
it. -/
theorem decodeFrom_row (h : Row registry offset frames used) (rest : Bytes) :
    decodeFrom registry offset (used ++ rest) =
      (frames ++ (decodeFrom registry (offset + used.length) rest).1,
        (decodeFrom registry (offset + used.length) rest).2) := by
  induction h with
  | nil => rfl
  | @cons offset tag m region later frames hsize hregion _ ih =>
    have hhead : Frame.head registry
        (Bytes.toBigEndian lengthField region.length ++ region ++ (later ++ rest)) =
          .ok (some ⟨tag, m, lengthField + region.length⟩) :=
      Frame.head_eq_some.2 ⟨region, Frame.opens_append hsize _, hregion, rfl⟩
    rw [List.append_assoc, decodeFrom_of_head offset hhead]
    simp only [List.drop_left' (Frame.length_framed region)]
    rw [ih, List.length_append, Frame.length_framed, Nat.add_assoc offset]
    rfl

/-- **Every datagram is a row and something at which decoding halts.** -/
theorem exists_row (registry : Registry μ) (offset : Nat) (s : Bytes) :
    ∃ used rest, s = used ++ rest ∧
      Row registry offset (decodeFrom registry offset s).1 used ∧
      (decodeFrom registry offset s).2.1 = offset + used.length ∧
      Halts registry rest (decodeFrom registry offset s).2.2 := by
  fun_induction decodeFrom registry offset s with
  | case1 offset s he => exact ⟨[], s, rfl, .nil offset, rfl, halts_iff.2 he⟩
  | case2 offset s cause he => exact ⟨[], s, rfl, .nil offset, rfl, halts_iff.2 he⟩
  | case3 offset s reason he => exact ⟨[], s, rfl, .nil offset, rfl, halts_iff.2 he⟩
  | case4 offset s h he _ frames stop hrest ih =>
    obtain ⟨region, hopens, hholds, hlength⟩ := Frame.head_eq_some.1 he
    obtain ⟨rest, rfl⟩ := hopens.eq_append
    have hfront : (Bytes.toBigEndian lengthField region.length ++ region).length = h.length := by
      rw [Frame.length_framed, hlength]
    rw [hrest, List.drop_left' hfront] at ih
    obtain ⟨used, rest', rfl, hrow, hconsumed, hhalts⟩ := ih
    refine ⟨_, rest', (List.append_assoc ..).symm, ?_, ?_, hhalts⟩
    · rw [hlength] at hrow ⊢
      exact .cons hopens.1 hholds hrow
    · rw [hconsumed, List.length_append, hfront, Nat.add_assoc]
  | case5 offset s h he hn =>
    obtain ⟨hmin, hmax⟩ := Frame.length_of_head he
    refine absurd ⟨by omega, ?_⟩ hn
    rw [List.isEmpty_eq_false_iff, ← List.length_pos_iff]
    omega

/-- **What decoding finds, said without decoding**: the one division of the bytes
into a row and something at which it halts. -/
theorem decodeFrom_eq_iff {consumed : Nat} :
    decodeFrom registry offset s = (frames, consumed, stop) ↔
      ∃ used rest, s = used ++ rest ∧ Row registry offset frames used ∧
        consumed = offset + used.length ∧ Halts registry rest stop := by
  constructor
  · intro h
    obtain ⟨used, rest, hs, hrow, hconsumed, hhalts⟩ := exists_row registry offset s
    rw [h] at hrow hconsumed hhalts
    exact ⟨used, rest, hs, hrow, hconsumed, hhalts⟩
  · rintro ⟨used, rest, rfl, hrow, rfl, hhalts⟩
    rw [decodeFrom_row hrow, decodeFrom_of_halts hhalts, List.append_nil]

/-! ### Reports -/

theorem Report.fault?_eq_some {r : Report μ} {cause : CodecError} :
    r.fault? = some cause ↔ r.stop = .fault cause := by
  unfold Report.fault?
  cases r.stop <;> simp

/-- The report on a row in front of something at which decoding halts. -/
theorem decode_of_row (hrow : Row registry 0 frames used) (hhalts : Halts registry rest stop) :
    decode registry (used ++ rest) = ⟨frames, used.length, (used ++ rest).length, stop⟩ := by
  have h : decodeFrom registry 0 (used ++ rest) = (frames, used.length, stop) :=
    decodeFrom_eq_iff.2 ⟨used, rest, rfl, hrow, (Nat.zero_add _).symm, hhalts⟩
  simp only [decode, h]

/-- The row in a datagram and what stands behind it, as its report shows them. -/
theorem exists_row_report (registry : Registry μ) (datagram : Bytes) :
    ∃ used rest, datagram = used ++ rest ∧
      Row registry 0 (decode registry datagram).frames used ∧
      (decode registry datagram).consumed = used.length ∧
      Halts registry rest (decode registry datagram).stop := by
  obtain ⟨used, rest, hs, hrow, hconsumed, hhalts⟩ := exists_row registry 0 datagram
  exact ⟨used, rest, hs, hrow, hconsumed.trans (Nat.zero_add _), hhalts⟩

/-- **More bytes at the end only add messages.** -/
theorem decode_append (registry : Registry μ) (datagram s : Bytes) :
    (decode registry datagram).messages <+: (decode registry (datagram ++ s)).messages ∧
      (decode registry datagram).consumed ≤ (decode registry (datagram ++ s)).consumed := by
  obtain ⟨used, rest, hs, hrow, hconsumed, -⟩ := exists_row_report registry datagram
  have hlater := decodeFrom_row hrow (rest ++ s)
  rw [← List.append_assoc, ← hs, Nat.zero_add] at hlater
  constructor
  · rw [Report.messages, Report.messages, decode, decode, hlater, List.map_append]
    exact List.prefix_append ..
  · rw [hconsumed, decode, hlater]
    exact (decodeFrom_bounds registry used.length (rest ++ s)).1

/-- The size that the length field at a place of a datagram declares. -/
def sizeAt (datagram : Bytes) (place : Nat) : Nat :=
  Bytes.ofBigEndian ((datagram.drop place).take lengthField)

theorem sizeAt_of_opens {region : Bytes} (h : Frame.Opens region rest) (used : Bytes) :
    sizeAt (used ++ rest) used.length = region.length := by
  obtain ⟨later, rfl⟩ := h.eq_append
  rw [sizeAt, List.drop_left' rfl, List.append_assoc,
    List.take_left' (Bytes.length_toBigEndian lengthField _), Frame.ofBigEndian_length h.1]

/-- **A fault depends on the bytes up to the end of its region alone.** The region
is all there, and a datagram that begins with the same bytes has the same report
but for its own length. -/
theorem decode_of_fault {datagram : Bytes} {cause : CodecError} {place size : Nat}
    (h : (decode registry datagram).fault? = some cause)
    (hplace : (decode registry datagram).consumed = place) (hsize : sizeAt datagram place = size) :
    place + lengthField + size ≤ datagram.length ∧
    ∀ other : Bytes,
      other.take (place + lengthField + size) = datagram.take (place + lengthField + size) →
      decode registry other = { decode registry datagram with length := other.length } := by
  obtain ⟨used, rest, hs, hrow, hconsumed, hhalts⟩ := exists_row_report registry datagram
  have hstop := Report.fault?_eq_some.1 h
  rw [hstop] at hhalts
  cases hhalts with
  | @fault region _ hopens hfaulty =>
    obtain ⟨later, hrest⟩ := hopens.eq_append
    obtain rfl : used.length = place := hconsumed.symm.trans hplace
    obtain rfl : region.length = size := by rw [← hsize, hs, sizeAt_of_opens hopens used]
    -- The bytes that matter: the row, the length field and the region.
    have hcut : (used ++ (Bytes.toBigEndian lengthField region.length ++ region)).length =
        used.length + lengthField + region.length := by
      simp only [List.length_append, Bytes.length_toBigEndian]
      omega
    have hwhole : datagram =
        used ++ (Bytes.toBigEndian lengthField region.length ++ region) ++ later := by
      rw [hs, hrest, ← List.append_assoc]
    refine ⟨?_, fun other hother => ?_⟩
    · rw [hwhole, List.length_append, hcut]
      omega
    · have hbegins : other =
          used ++ (Bytes.toBigEndian lengthField region.length ++ region ++
            other.drop (used.length + lengthField + region.length)) := by
        conv_lhs =>
          rw [← List.take_append_drop (used.length + lengthField + region.length) other, hother,
            hwhole, List.take_left' hcut]
        rw [List.append_assoc]
      have hreport := decode_of_row hrow (.fault (Frame.opens_append hopens.1
        (other.drop (used.length + lengthField + region.length))) hfaulty)
      rw [← hbegins] at hreport
      rw [hreport, ← hconsumed, ← hstop]

/-- **Decoding fails closed.** An error depends on the bytes up to the end of the bad frame
alone, and without one more bytes at the end only add messages. So a datagram that was
cut short yields messages that the whole one begins with, and an error only if the whole
one has it too. -/
theorem decode_failClosed (registry : Registry μ) (datagram : Bytes) :
    (∀ place size cause, (decode registry datagram).fault? = some cause →
      (decode registry datagram).consumed = place → sizeAt datagram place = size →
      place + 8 + size ≤ datagram.length ∧
      ∀ other : Bytes, other.take (place + 8 + size) = datagram.take (place + 8 + size) →
        (decode registry other).messages = (decode registry datagram).messages ∧
        (decode registry other).consumed = place ∧
        (decode registry other).fault? = some cause) ∧
    ((decode registry datagram).fault? = none → ∀ s,
      (decode registry datagram).messages <+: (decode registry (datagram ++ s)).messages ∧
      (decode registry datagram).consumed ≤ (decode registry (datagram ++ s)).consumed) ∧
    ∀ n,
      (decode registry (datagram.take n)).messages <+: (decode registry datagram).messages ∧
      ∀ cause, (decode registry (datagram.take n)).fault? = some cause →
        (decode registry datagram).fault? = some cause := by
  refine ⟨fun place size cause h hplace hsize => ?_,
    fun _ s => decode_append registry datagram s, fun n => ⟨?_, fun cause h => ?_⟩⟩
  · obtain ⟨hbound, hsame⟩ := decode_of_fault h hplace hsize
    refine ⟨hbound, fun other hother => ?_⟩
    have hreport := hsame other hother
    exact ⟨by rw [hreport]; rfl, by rw [hreport]; exact hplace, by rw [hreport]; exact h⟩
  · have h := (decode_append registry (datagram.take n) (datagram.drop n)).1
    rwa [List.take_append_drop] at h
  · obtain ⟨hbound, hsame⟩ := decode_of_fault h rfl rfl
    have hreport := hsame datagram (by
      rw [List.take_take, Nat.min_eq_left (hbound.trans (List.length_take_le n datagram))])
    rw [hreport]
    exact h

/-- A probe, a frame whose tag has no decoder, and a byte. -/
def strange : Bytes :=
  Frame.ofMessage (⟨7, false⟩ : Probe) ++ (Frame.bytes (Bytes.ofText "Q") [] ++ [9])

theorem decode_strange :
    decode Probe.registry strange =
      ⟨[⟨"P", ⟨7, false⟩, 0, 18⟩], 18, 36, .fault (.unknownTag "Q")⟩ := by
  have hprobe : Frame.head Probe.registry strange = .ok (some ⟨"P", ⟨7, false⟩, 18⟩) :=
    head_ofMessage (by decide) ⟨_, Registry.find?_register .., rfl⟩ _
  have hopens : Frame.Opens (Frame.body (Bytes.ofText "Q") []) (strange.drop 18) :=
    Frame.opens_body.2 ⟨by decide, [9], by decide⟩
  have hbad : Halts Probe.registry (strange.drop 18) (.fault (.unknownTag "Q")) :=
    .fault hopens (.unknownTag (by decide) rfl)
  rw [decode, decodeFrom_of_head 0 hprobe, decodeFrom_of_halts hbad]
  rfl

/-- Whatever follows the strange frame, the probe before it is all there is; and
the probe alone, cut or not, is the beginning of more. -/
theorem decode_failClosed_strange :
    (decode Probe.registry strange).fault? = some (.unknownTag "Q") ∧
    (decode Probe.registry strange).consumed = 18 ∧ sizeAt strange 18 = 9 ∧
    (∀ s, (decode Probe.registry (strange.take 35 ++ s)).messages = [⟨7, false⟩] ∧
      (decode Probe.registry (strange.take 35 ++ s)).fault? = some (.unknownTag "Q")) ∧
    ∀ n, (decode Probe.registry ((Frame.ofMessage (⟨7, false⟩ : Probe)).take n)).fault? = none ∧
      ∀ s, (decode Probe.registry ((Frame.ofMessage (⟨7, false⟩ : Probe)).take n)).messages <+:
        (decode Probe.registry ((Frame.ofMessage (⟨7, false⟩ : Probe)).take n ++ s)).messages := by
  have hfault : (decode Probe.registry strange).fault? = some (.unknownTag "Q") := by
    rw [decode_strange]
    rfl
  have hplace : (decode Probe.registry strange).consumed = 18 := by rw [decode_strange]
  have hmessages : (decode Probe.registry strange).messages = [⟨7, false⟩] := by
    rw [decode_strange]
    rfl
  have hsize : sizeAt strange 18 = 9 := by decide
  have hencode : Frame.encode (⟨7, false⟩ : Probe) = .ok (Frame.ofMessage (⟨7, false⟩ : Probe)) := by
    decide
  have hrecovers : Probe.registry.Recovers (⟨7, false⟩ : Probe) :=
    ⟨_, Registry.find?_register .., rfl⟩
  have hnone : ∀ n,
      (decode Probe.registry ((Frame.ofMessage (⟨7, false⟩ : Probe)).take n)).fault? = none := by
    intro n
    rw [Report.fault?, (decode_take hencode hrecovers n).2]
  obtain ⟨-, hsame⟩ :=
    (decode_failClosed Probe.registry strange).1 18 9 _ hfault hplace hsize
  refine ⟨hfault, hplace, hsize, fun s => ?_, fun n => ⟨hnone n, fun s => ?_⟩⟩
  · obtain ⟨h1, -, h3⟩ := hsame (strange.take 35 ++ s) (List.take_left' (by decide))
    exact ⟨h1.trans hmessages, h3⟩
  · exact ((decode_failClosed Probe.registry _).2.1 (hnone n) s).1

end Datagram

/-! ### Wherever a frame lies -/

namespace Frame

theorem readBytes_skip (front s : Bytes) (offset length : Nat) :
    readBytes (front ++ s) (front.length + offset) length = readBytes s offset length := by
  have hrest : (front ++ s).drop (front.length + offset) = s.drop offset := by
    rw [← List.drop_drop, List.drop_left]
  have hleft : (front ++ s).length - (front.length + offset) = s.length - offset := by
    rw [List.length_append, Nat.add_sub_add_left]
  have hbeyond : (front ++ s).length < front.length + offset ↔ s.length < offset := by
    rw [List.length_append, Nat.add_lt_add_iff_left]
  simp only [readBytes, hrest, hleft, hbeyond]

/-- What was found, `n` bytes further on. -/
def moved (n : Nat) (found : Option (μ × Nat)) : Option (μ × Nat) :=
  found.map fun (message, next) => (message, n + next)

/-- The reads of a frame at two places go side by side. -/
theorem walk_skip (registry : Registry μ) (front s : Bytes) (offset : Nat) :
    walk registry (front ++ s) (front.length + offset) =
      (walk registry s offset).map (moved front.length) := by
  have hleft : (front ++ s).length - (front.length + offset + lengthField) =
      s.length - (offset + lengthField) := by
    rw [List.length_append]
    omega
  have hregion := readBytes_skip front s (offset + lengthField)
  rw [← Nat.add_assoc] at hregion
  rw [walk, walk, readBytes_skip, hleft]
  cases readBytes s offset lengthField with
  | error cause =>
    dsimp only
    split_ifs <;> rfl
  | abort reason => rfl
  | ok field =>
    dsimp only
    split_ifs
    · rw [hregion]
      cases readBytes s (offset + lengthField) (Bytes.ofBigEndian field) with
      | error cause => rfl
      | abort reason => rfl
      | ok region =>
        -- Inside the region the reads start anew, wherever it lies.
        dsimp only [Outcome.bind]
        cases walkRegion registry region with
        | ok message => simp only [Outcome.map_ok, moved, Option.map_some, Nat.add_assoc]
        | error cause => rfl
        | abort reason => rfl
    · rfl

/-- **A frame is read the same wherever it lies.** -/
theorem parse_skip (registry : Registry μ) (front s : Bytes) (offset : Nat) :
    parse registry (front ++ s) (front.length + offset) =
      (parse registry s offset).map (moved front.length) := by
  rw [← walk_eq_parse, ← walk_eq_parse, walk_skip]

end Frame

/-! ### Datagrams end to end -/

namespace Datagram

/-- A frame that lies `n` bytes further on. -/
def Placed.moved (n : Nat) (p : Placed μ) : Placed μ :=
  ⟨p.tag, p.message, n + p.start, n + p.stop⟩

section

variable {registry : Registry μ} {offset : Nat} {frames : List (Placed μ)} {used : Bytes}

theorem Row.moved (h : Row registry offset frames used) (n : Nat) :
    Row registry (n + offset) (frames.map (Placed.moved n)) used := by
  induction h with
  | nil => exact .nil _
  | @cons offset tag m region later frames hsize hregion _ ih =>
    have hfirst : Placed.moved n ⟨tag, m, offset, offset + (lengthField + region.length)⟩ =
        ⟨tag, m, n + offset, n + offset + (lengthField + region.length)⟩ := by
      simp only [Placed.moved, Nat.add_assoc]
    rw [← Nat.add_assoc] at ih
    rw [List.map_cons, hfirst]
    exact .cons hsize hregion ih

/-- **Decoding does not depend on where it starts**, but for the places that it
reports. -/
theorem decodeFrom_moved (registry : Registry μ) (n offset : Nat) (s : Bytes) :
    decodeFrom registry (n + offset) s =
      ((decodeFrom registry offset s).1.map (Placed.moved n),
        n + (decodeFrom registry offset s).2.1, (decodeFrom registry offset s).2.2) := by
  obtain ⟨used, rest, hs, hrow, hconsumed, hhalts⟩ := exists_row registry offset s
  refine decodeFrom_eq_iff.2 ⟨used, rest, hs, hrow.moved n, ?_, hhalts⟩
  rw [hconsumed, Nat.add_assoc]

theorem row_of_isComplete {datagram : Bytes} (h : (decode registry datagram).isComplete = true) :
    Row registry 0 (decode registry datagram).frames datagram := by
  obtain ⟨used, rest, hs, hrow, hconsumed, -⟩ := exists_row_report registry datagram
  have htrailing : datagram.length - used.length = 0 := by
    rw [← hconsumed]
    exact of_decide_eq_true (Bool.and_eq_true_iff.1 h).2
  have hrest : rest = [] := by
    rw [hs, List.length_append, Nat.add_sub_cancel_left] at htrailing
    exact List.length_eq_zero_iff.1 htrailing
  rw [hrest, List.append_nil] at hs
  rwa [← hs] at hrow

/-- **The report on two datagrams end to end**, when frames fill the first one: the
frames of both, those of the second moved, and then what stops the second. -/
theorem decode_append_of_isComplete {a : Bytes} (h : (decode registry a).isComplete = true)
    (b : Bytes) : decode registry (a ++ b) =
      ⟨(decode registry a).frames ++ (decode registry b).frames.map (Placed.moved a.length),
        a.length + (decode registry b).consumed, a.length + b.length,
        (decode registry b).stop⟩ := by
  have hrow := decodeFrom_row (row_of_isComplete h) b
  have hmoved := decodeFrom_moved registry a.length 0 b
  rw [Nat.zero_add] at hrow
  rw [Nat.add_zero] at hmoved
  rw [hmoved] at hrow
  conv_lhs => rw [decode, hrow]
  rw [List.length_append]
  rfl

end

/-- **Decoding two datagrams end to end is decoding one after the other**, if frames
fill the first to its last byte: the messages of both, and behind the first all
that the second alone gives. For a frame is read the same wherever it lies: with
some bytes put in front, at any offset, the answer is the same but for the place of
what comes next. -/
theorem decode_concat (registry : Registry μ) :
    (∀ a b, (decode registry a).isComplete = true →
      (decode registry (a ++ b)).messages =
        (decode registry a).messages ++ (decode registry b).messages ∧
      (decode registry (a ++ b)).consumed = a.length + (decode registry b).consumed ∧
      (decode registry (a ++ b)).fault? = (decode registry b).fault? ∧
      (decode registry (a ++ b)).trailing = (decode registry b).trailing) ∧
    ∀ front s offset, Frame.parse registry (front ++ s) (front.length + offset) =
      (Frame.parse registry s offset).map
        (Option.map fun (message, next) => (message, front.length + next)) := by
  refine ⟨fun a b h => ?_, Frame.parse_skip registry⟩
  have hreport := decode_append_of_isComplete h b
  refine ⟨?_, ?_, ?_, ?_⟩
  · rw [hreport, Report.messages, List.map_append, List.map_map]
    rfl
  · rw [hreport]
  · rw [hreport]
    rfl
  · rw [hreport]
    exact Nat.add_sub_add_left ..

theorem decode_concat_strange :
    (decode Probe.registry (Frame.ofMessage (⟨7, false⟩ : Probe))).isComplete = true ∧
    (decode Probe.registry (Frame.ofMessage (⟨7, false⟩ : Probe) ++ strange)).messages =
      [⟨7, false⟩, ⟨7, false⟩] ∧
    (decode Probe.registry (Frame.ofMessage (⟨7, false⟩ : Probe) ++ strange)).consumed = 36 ∧
    (decode Probe.registry (Frame.ofMessage (⟨7, false⟩ : Probe) ++ strange)).fault? =
      some (.unknownTag "Q") ∧
    (decode Probe.registry (Frame.ofMessage (⟨7, false⟩ : Probe) ++ strange)).trailing = 18 := by
  have hencode : Frame.encode (⟨7, false⟩ : Probe) = .ok (Frame.ofMessage (⟨7, false⟩ : Probe)) := by
    decide
  have hrecovers : Probe.registry.Recovers (⟨7, false⟩ : Probe) :=
    ⟨_, Registry.find?_register .., rfl⟩
  obtain ⟨hmessages, hconsumed, hstop⟩ :=
    decode_frames (List.forall_mem_singleton.2 ⟨hencode, hrecovers⟩)
  rw [List.flatMap_singleton] at hmessages hconsumed hstop
  have hcomplete :
      (decode Probe.registry (Frame.ofMessage (⟨7, false⟩ : Probe))).isComplete = true := by
    simp [Report.isComplete, Report.fault?, Report.trailing, hstop, hconsumed]
  obtain ⟨h1, h2, h3, h4⟩ := (decode_concat Probe.registry).1 _ strange hcomplete
  rw [hmessages, decode_strange] at h1
  rw [decode_strange] at h2 h3 h4
  exact ⟨hcomplete, h1, h2, h3, h4⟩

end Datagram
end Tagram

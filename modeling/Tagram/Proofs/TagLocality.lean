/-
# A decoder matters to the frames of its tag only

Two registries that differ in the decoder of one tag read every frame that does
not carry this tag alike (`Frame.head_congr`). So decoding a datagram with both
goes side by side up to the first frame that carries it (`Row.agree`), and if no
attempted frame does, the reports are the same (`decode_eq_of_agreeOff`).

A tag that has no decoder ends decoding where it is met. So giving it one changes
nothing, unless decoding stopped at a frame with this tag (`Misses`); then it can
only go on from there.

A registry is a value: what is registered on one is seen on no other, cloned or
not (`Registry.getElem?_edits`), and the order in which different tags get their
decoders does not show (`Registry.find?_register_comm`, `Registry.tags_of_perm`).

Key definitions: `Registry.AgreeOff`, `Frame.Tagged`, `Datagram.Attempted`,
`Datagram.FirstTagged`, `Datagram.Misses`, `Registry.Edit`.
Key theorems: `Frame.head_congr`, `Datagram.Row.agree`,
`Datagram.exists_row_of_attempted`, `Datagram.decode_eq_of_agreeOff`,
`Datagram.decode_local`.
-/
import Tagram.Proofs.Framing

namespace Tagram

variable {μ : Type}

/-! ### Frames without the tag -/

/-- The registries have the same decoders, but for the tag `t`. -/
def Registry.AgreeOff (t : String) (r r' : Registry μ) : Prop :=
  ∀ tag, tag ≠ t → r.find? tag = r'.find? tag

theorem Registry.agreeOff_register (r : Registry μ) (t : String) (d : Decoder μ) :
    AgreeOff t r (r.register t d) := by
  intro tag h
  rw [find?_register, if_neg h]

namespace Frame

variable {t : String} {registry registry' : Registry μ} {s : Bytes}

/-- A frame stands at the front of `s`, all there, and its tag is read as `t`. -/
def Tagged (t : String) (s : Bytes) : Prop :=
  Bytes.isAscii (Bytes.ofText t) = true ∧ ∃ payload, Opens (body (Bytes.ofText t) payload) s

/-- **A frame that does not carry the tag is read alike.** -/
theorem head_congr (h : registry.AgreeOff t registry') (hs : ¬ Tagged t s) :
    head registry s = head registry' s := by
  rcases incomplete_or_opens s with hi | ⟨region, hr⟩
  · rw [head_of_incomplete registry hi, head_of_incomplete registry' hi]
  · rw [head_of_opens registry hr, head_of_opens registry' hr]
    congr 1
    rcases region_cases region with hshort | ⟨n, rest, hn, hlt, rfl⟩ | ⟨tag, payload, hl, rfl⟩
    · rw [decode, decode, parts_short _ hshort]
    · rw [decode, decode, parts_overrun _ hn hlt]
    · by_cases ha : Bytes.isAscii tag = true
      · obtain ⟨u, rfl, hu⟩ := exists_text ha
        have hne : u ≠ t := by
          rintro rfl
          exact hs ⟨hu, payload, hr⟩
        rw [decode_body registry hu hr.1, decode_body registry' hu hr.1, h u hne]
      · rw [decode, decode, parts_body _ payload hl, if_neg ha]

theorem Holds.tagged {tag : String} {m : μ} {region : Bytes} (h : Holds registry tag m region)
    (hopens : Opens region s) : Tagged tag s := by
  obtain ⟨payload, d, ha, rfl, -, -⟩ := h
  exact ⟨ha, payload, hopens⟩

theorem Holds.agree {tag : String} {m : μ} {region : Bytes} (h : Holds registry tag m region)
    (hagree : registry.AgreeOff t registry') (hne : tag ≠ t) : Holds registry' tag m region := by
  obtain ⟨payload, d, ha, hregion, hd, ho⟩ := h
  exact ⟨payload, d, ha, hregion, (hagree tag hne).symm.trans hd, ho⟩

/-- A tag without a decoder is an error where it is met. -/
theorem head_of_tagged (h : Tagged t s) (hnone : registry.find? t = none) :
    head registry s = .error (.unknownTag t) := by
  obtain ⟨ha, payload, hopens⟩ := h
  exact head_eq_error.2 ⟨_, hopens, .unknownTag ha hnone⟩

end Frame

/-! ### The places where a frame is attempted -/

namespace Datagram

variable {t : String} {registry registry' : Registry μ} {datagram used used' rest : Bytes}
  {place offset : Nat} {frames frames' : List (Placed μ)}

/-- The places at which decoding a datagram asks for a frame: the start, and the end
of every frame that it reads. -/
inductive Attempted (registry : Registry μ) (datagram : Bytes) : Nat → Prop where
  | first : Attempted registry datagram 0
  | next {place after : Nat} {m : μ} (h : Attempted registry datagram place)
    (hparse : Frame.parse registry datagram place = .ok (some (m, after))) :
    Attempted registry datagram after

theorem Row.append (h : Row registry offset frames used)
    (h' : Row registry (offset + used.length) frames' used') :
    Row registry offset (frames ++ frames') (used ++ used') := by
  induction h with
  | nil => exact h'
  | @cons offset tag m region later frames hsize hregion _ ih =>
    rw [List.length_append, Frame.length_framed, ← Nat.add_assoc] at h'
    rw [List.append_assoc, List.cons_append]
    exact .cons hsize hregion (ih h')

/-- **A row leads up to every place that is attempted.** -/
theorem exists_row_of_attempted (h : Attempted registry datagram place) :
    place ≤ datagram.length ∧ ∃ frames, Row registry 0 frames (datagram.take place) := by
  induction h with
  | first => exact ⟨Nat.zero_le _, [], .nil 0⟩
  | @next place after m _ hparse ih =>
    obtain ⟨hle, frames, hrow⟩ := ih
    obtain ⟨tag, region, hopens, hholds, rfl⟩ := Frame.parse_eq_some.1 hparse
    obtain ⟨rest, hrest⟩ := hopens.eq_append
    have hlength : datagram.length - place = lengthField + region.length + rest.length := by
      rw [← List.length_drop, hrest, List.length_append, Frame.length_framed]
    refine ⟨by omega, frames ++ [⟨tag, m, place, place + (lengthField + region.length)⟩], ?_⟩
    rw [List.take_add, hrest, List.take_left' (Frame.length_framed region)]
    apply hrow.append
    rw [List.length_take_of_le hle, Nat.zero_add]
    have hlast := Row.cons hopens.1 hholds (Row.nil (place + (lengthField + region.length)))
    rwa [List.append_nil] at hlast

theorem Row.attempted (h : Row registry offset frames used)
    (hd : datagram.drop offset = used ++ rest) (ha : Attempted registry datagram offset) :
    Attempted registry datagram (offset + used.length) := by
  induction h with
  | nil => exact ha
  | @cons offset tag m region later frames hsize hregion _ ih =>
    rw [List.append_assoc] at hd
    obtain ⟨hopens, hlater⟩ := Frame.opens_drop hsize hd
    have hnext := ih hlater (.next ha (Frame.parse_eq_some.2 ⟨tag, region, hopens, hregion, rfl⟩))
    rwa [List.length_append, Frame.length_framed, ← Nat.add_assoc]

/-- A frame is attempted where decoding stops. -/
theorem attempted_consumed (registry : Registry μ) (datagram : Bytes) :
    Attempted registry datagram (decode registry datagram).consumed := by
  have hlast := (row_and_halts registry datagram).1.attempted (List.take_append_drop ..).symm .first
  rwa [Nat.zero_add, List.length_take_of_le (consumed_le registry datagram)] at hlast

/-- **A row in which no frame carries the tag is a row for both registries.** -/
theorem Row.agree (hagree : registry.AgreeOff t registry') (h : Row registry offset frames used)
    (hd : datagram.drop offset = used ++ rest) (ha : Attempted registry datagram offset)
    (hno : ∀ place < offset + used.length, Attempted registry datagram place →
      ¬ Frame.Tagged t (datagram.drop place)) : Row registry' offset frames used := by
  induction h with
  | nil => exact .nil _
  | @cons offset tag m region later frames hsize hregion hrow ih =>
    rw [List.append_assoc] at hd
    obtain ⟨hopens, hlater⟩ := Frame.opens_drop hsize hd
    rw [List.length_append, Frame.length_framed, ← Nat.add_assoc] at hno
    have hwidth : 0 < lengthField := by decide
    have hne : tag ≠ t := by
      rintro rfl
      exact hno offset (by omega) ha (hregion.tagged hopens)
    have hnext := Attempted.next ha (Frame.parse_eq_some.2 ⟨tag, region, hopens, hregion, rfl⟩)
    exact .cons hsize (hregion.agree hagree hne) (ih hlater hnext hno)

/-! ### Two registries, one datagram -/

/-- **If no attempted frame carries the tag, the reports are the same.** -/
theorem decode_eq_of_agreeOff (hagree : registry.AgreeOff t registry')
    (hno : ∀ place, Attempted registry datagram place →
      ¬ Frame.Tagged t (datagram.drop place)) :
    decode registry' datagram = decode registry datagram := by
  obtain ⟨hrow, hhalts⟩ := row_and_halts registry datagram
  have hrow' := hrow.agree hagree (List.take_append_drop ..).symm .first fun place _ => hno place
  have hhalts' : Halts registry' (datagram.drop (decode registry datagram).consumed)
      (decode registry datagram).stop := by
    rw [halts_iff, ← Frame.head_congr hagree (hno _ (attempted_consumed registry datagram)),
      ← halts_iff]
    exact hhalts
  have hreport := decode_of_row hrow' hhalts'
  rw [List.take_append_drop, List.length_take_of_le (consumed_le registry datagram)] at hreport
  exact hreport

theorem decode_take_of_row (h : Row registry 0 frames (datagram.take place))
    (hle : place ≤ datagram.length) :
    decode registry (datagram.take place) = ⟨frames, place, place, .incomplete⟩ ∧
      frames <+: (decode registry datagram).frames ∧
      place ≤ (decode registry datagram).consumed := by
  have hlength := List.length_take_of_le hle
  have hend : Halts registry [] .incomplete := .incomplete (.inl (by decide))
  have hreport := decode_of_row h hend
  have hlater := decodeFrom_row h (datagram.drop place)
  rw [List.append_nil, hlength] at hreport
  rw [List.take_append_drop, hlength, Nat.zero_add] at hlater
  refine ⟨hreport, ?_, ?_⟩
  · rw [decode, hlater]
    exact List.prefix_append ..
  · rw [decode, hlater]
    exact (decodeFrom_bounds registry place (datagram.drop place)).1

/-- The first attempted frame that carries the tag starts at the place. -/
structure FirstTagged (registry : Registry μ) (datagram : Bytes) (t : String) (place : Nat) :
    Prop where
  attempted : Attempted registry datagram place
  tagged : Frame.Tagged t (datagram.drop place)
  earliest : ∀ earlier < place, Attempted registry datagram earlier →
    ¬ Frame.Tagged t (datagram.drop earlier)

theorem exists_firstTagged (ha : Attempted registry datagram place)
    (ht : Frame.Tagged t (datagram.drop place)) :
    ∃ first, FirstTagged registry datagram t first := by
  classical
  have hex : ∃ place, Attempted registry datagram place ∧ Frame.Tagged t (datagram.drop place) :=
    ⟨place, ha, ht⟩
  obtain ⟨hattempted, htagged⟩ := Nat.find_spec hex
  exact ⟨Nat.find hex, hattempted, htagged, fun _ hlt ha ht => Nat.find_min hex hlt ⟨ha, ht⟩⟩

/-- **Up to the first frame that carries the tag** both registries decode the same
frames, and both get there. -/
theorem FirstTagged.agree (h : FirstTagged registry datagram t place)
    (hagree : registry.AgreeOff t registry') :
    decode registry' (datagram.take place) = decode registry (datagram.take place) ∧
    (decode registry (datagram.take place)).isComplete = true ∧
    (decode registry (datagram.take place)).frames <+: (decode registry datagram).frames ∧
    (decode registry (datagram.take place)).frames <+: (decode registry' datagram).frames ∧
    place ≤ (decode registry datagram).consumed ∧
    place ≤ (decode registry' datagram).consumed := by
  obtain ⟨hle, frames, hrow⟩ := exists_row_of_attempted h.attempted
  have hlength := List.length_take_of_le hle
  have hrow' : Row registry' 0 frames (datagram.take place) := by
    refine hrow.agree hagree (List.take_append_drop place datagram).symm .first ?_
    rw [hlength, Nat.zero_add]
    exact h.earliest
  obtain ⟨hreport, hbegins, hreaches⟩ := decode_take_of_row hrow hle
  obtain ⟨hreport', hbegins', hreaches'⟩ := decode_take_of_row hrow' hle
  rw [hreport, hreport']
  refine ⟨rfl, ?_, hbegins, hbegins', hreaches, hreaches'⟩
  simp [Report.isComplete, Report.fault?, Report.trailing]

/-! ### A decoder for a new tag -/

/-- Decoding stopped because the tag of the frame that it met, `t`, was not found. A
decoder of another tag may complain about `t` too; that is no such stop. -/
def Misses (registry : Registry μ) (datagram : Bytes) (t : String) : Prop :=
  (decode registry datagram).fault? = some (.unknownTag t) ∧
    Frame.Tagged t (datagram.drop (decode registry datagram).consumed)

/-- A frame whose tag has no decoder is the last one that is attempted. -/
theorem consumed_of_tagged (hnone : registry.find? t = none)
    (ha : Attempted registry datagram place) (ht : Frame.Tagged t (datagram.drop place)) :
    (decode registry datagram).consumed = place ∧ Misses registry datagram t := by
  obtain ⟨hle, frames, hrow⟩ := exists_row_of_attempted ha
  have hhalts : Halts registry (datagram.drop place) (.fault (.unknownTag t)) :=
    halts_iff.2 (Frame.head_of_tagged ht hnone)
  have hreport := decode_of_row hrow hhalts
  rw [List.take_append_drop, List.length_take_of_le hle] at hreport
  refine ⟨by rw [hreport], ?_, ?_⟩
  · rw [hreport]
    rfl
  · rw [hreport]
    exact ht

/-- **A decoder for a new tag changes a report only if the tag was missing.** -/
theorem decode_register_of_not_misses (hnone : registry.find? t = none)
    (hno : ¬ Misses registry datagram t) (d : Decoder μ) :
    decode (registry.register t d) datagram = decode registry datagram := by
  apply decode_eq_of_agreeOff (registry.agreeOff_register t d)
  intro place ha ht
  exact hno (consumed_of_tagged hnone ha ht).2

/-- **If the tag was missing**, decoding begins as before. -/
theorem messages_register_of_misses (hnone : registry.find? t = none)
    (h : Misses registry datagram t) (d : Decoder μ) :
    (decode registry datagram).messages <+: (decode (registry.register t d) datagram).messages := by
  obtain ⟨first, hfirst⟩ := exists_firstTagged (attempted_consumed registry datagram) h.2
  -- Nothing is attempted behind a missing tag, so the first such frame is the last.
  obtain ⟨rfl, -⟩ := consumed_of_tagged hnone hfirst.attempted hfirst.tagged
  obtain ⟨-, -, -, hbegins, -, -⟩ := hfirst.agree (registry.agreeOff_register t d)
  rw [(decode_take_of_row (row_and_halts registry datagram).1
    (consumed_le registry datagram)).1] at hbegins
  exact hbegins.map _

end Datagram

/-! ### Registries side by side -/

namespace Registry

/-- What a program does with the registries that it holds: one of them gets a
decoder, or a clone of one is put behind the others. -/
inductive Edit (μ : Type) where
  | register (index : Nat) (tag : String) (d : Decoder μ)
  | clone (index : Nat)

/-- The registries after an edit. -/
def edit (shelf : List (Registry μ)) : Edit μ → List (Registry μ)
  | .register index tag d => shelf.modify index fun r => r.register tag d
  | .clone index => shelf ++ shelf[index]?.toList

/-- What an edit registers on the registry at an index. -/
def Edit.made (index : Nat) : Edit μ → Option (String × Decoder μ)
  | .register other tag d => if other = index then some (tag, d) else none
  | .clone _ => none

/-- The registry after registering decoders in turn. -/
def registerAll (r : Registry μ) (made : List (String × Decoder μ)) : Registry μ :=
  made.foldl (fun r e => r.register e.1 e.2) r

theorem getElem?_edit {shelf : List (Registry μ)} {index : Nat} {r : Registry μ}
    (h : shelf[index]? = some r) (e : Edit μ) :
    (edit shelf e)[index]? = some (r.registerAll (e.made index).toList) := by
  cases e with
  | register other tag d =>
    rw [edit, List.getElem?_modify, h, Edit.made]
    by_cases ho : other = index
    · rw [if_pos ho]
      simp [registerAll, ho]
    · rw [if_neg ho]
      simp [registerAll, ho]
  | clone other =>
    rw [edit, List.getElem?_append_left (List.getElem?_eq_some_iff.1 h).1, h]
    rfl

/-- **A registry holds what was registered on it**, whatever is done with others. -/
theorem getElem?_edits {shelf : List (Registry μ)} {index : Nat} {r : Registry μ}
    (h : shelf[index]? = some r) (edits : List (Edit μ)) :
    (edits.foldl edit shelf)[index]? =
      some (r.registerAll (edits.filterMap (Edit.made index))) := by
  induction edits generalizing shelf r with
  | nil => exact h
  | cons e edits ih =>
    rw [List.foldl_cons, ih (getElem?_edit h e), List.filterMap_cons]
    cases e.made index <;> rfl

theorem getElem?_clone {shelf : List (Registry μ)} {index : Nat} {r : Registry μ}
    (h : shelf[index]? = some r) : (edit shelf (.clone index))[shelf.length]? = some r := by
  rw [edit, h, Option.toList_some, List.getElem?_concat_length]

variable {t u : String}

theorem find?_register_comm (r : Registry μ) (h : t ≠ u) (f g : Decoder μ) (tag : String) :
    ((r.register t f).register u g).find? tag = ((r.register u g).register t f).find? tag := by
  simp only [find?_register]
  by_cases ht : tag = t
  · simp [ht, h]
  · simp [ht]

theorem perm_register_comm (r : Registry μ) (h : t ≠ u) (f g : Decoder μ) :
    ((r.register t f).register u g).entries.Perm ((r.register u g).register t f).entries := by
  have htu : (t != u) = true := by simpa using h
  have hut : (u != t) = true := by simpa using h.symm
  simp only [register, List.filter_cons, htu, hut, if_true, List.filter_filter]
  simp only [Bool.and_comm]
  exact List.Perm.swap ..

theorem tags_of_perm {r r' : Registry μ} (h : r.entries.Perm r'.entries) : r.tags = r'.tags := by
  have hle : ∀ a b : String, (compare a b != .gt) = true ↔ a ≤ b := by
    intro a b
    rw [bne_iff_ne, ne_eq, compare_gt_iff_gt, not_lt]
  have hsorted : ∀ l : List String,
      (l.mergeSort fun a b => compare a b != .gt).Pairwise
        fun a b => (compare a b != .gt) = true := by
    apply List.pairwise_mergeSort
    · intro a b c hab hbc
      rw [hle] at hab hbc ⊢
      exact hab.trans hbc
    · intro a b
      rw [Bool.or_eq_true, hle, hle]
      exact le_total a b
  refine List.Perm.eq_of_pairwise (fun a b _ _ hab hba => ?_) (hsorted _) (hsorted _) ?_
  · exact le_antisymm ((hle a b).1 hab) ((hle b a).1 hba)
  · exact (List.mergeSort_perm ..).trans ((h.map _).trans (List.mergeSort_perm ..).symm)

end Registry

namespace Datagram

theorem decode_congr {registry registry' : Registry μ}
    (h : ∀ tag, registry.find? tag = registry'.find? tag) (datagram : Bytes) :
    decode registry' datagram = decode registry datagram := by
  -- A tag outside ASCII stands on no frame, so it is enough to agree off one.
  refine decode_eq_of_agreeOff (t := "é") (fun tag _ => h tag) fun place _ ht => ?_
  exact absurd ht.1 (by decide)

/-- **Changing a registry is local to its tag.** Registries that agree on every other tag
decode the same frames up to the first one that carries the tag. A clone and its original
go separate ways, and the order in which two tags are registered does not show. -/
theorem decode_local :
    (∀ (registry registry' : Registry μ) (t : String), registry.AgreeOff t registry' →
      ∀ datagram : Bytes,
      ((∀ place, Attempted registry datagram place → ¬ Frame.Tagged t (datagram.drop place)) →
        decode registry' datagram = decode registry datagram) ∧
      (∀ place, Attempted registry datagram place → Frame.Tagged t (datagram.drop place) →
        ∃ first, FirstTagged registry datagram t first) ∧
      ∀ first, FirstTagged registry datagram t first →
        decode registry' (datagram.take first) = decode registry (datagram.take first) ∧
        (decode registry (datagram.take first)).isComplete = true ∧
        (decode registry (datagram.take first)).frames <+: (decode registry datagram).frames ∧
        (decode registry (datagram.take first)).frames <+: (decode registry' datagram).frames ∧
        first ≤ (decode registry datagram).consumed ∧
        first ≤ (decode registry' datagram).consumed) ∧
    (∀ (registry : Registry μ) (t : String), registry.find? t = none →
      ∀ (d : Decoder μ) (datagram : Bytes),
      (¬ Misses registry datagram t →
        decode (registry.register t d) datagram = decode registry datagram) ∧
      (Misses registry datagram t → (decode registry datagram).messages <+:
        (decode (registry.register t d) datagram).messages)) ∧
    (∀ (shelf : List (Registry μ)) (index : Nat) (r : Registry μ), shelf[index]? = some r →
      ∀ edits : List (Registry.Edit μ),
      (edits.foldl Registry.edit (Registry.edit shelf (.clone index)))[shelf.length]? =
        some (r.registerAll (edits.filterMap (Registry.Edit.made shelf.length))) ∧
      (edits.foldl Registry.edit (Registry.edit shelf (.clone index)))[index]? =
        some (r.registerAll (edits.filterMap (Registry.Edit.made index)))) ∧
    ∀ (r : Registry μ) (t u : String) (f g : Decoder μ), t ≠ u →
      (∀ tag, ((r.register t f).register u g).find? tag =
        ((r.register u g).register t f).find? tag) ∧
      ((r.register t f).register u g).tags = ((r.register u g).register t f).tags ∧
      ((r.register t f).register u g).size = ((r.register u g).register t f).size ∧
      ∀ datagram, decode ((r.register t f).register u g) datagram =
        decode ((r.register u g).register t f) datagram := by
  refine ⟨fun registry registry' t hagree datagram => ⟨decode_eq_of_agreeOff hagree,
      fun place ha ht => exists_firstTagged ha ht, fun first h => h.agree hagree⟩,
    fun registry t hnone d datagram => ⟨fun h => decode_register_of_not_misses hnone h d,
      fun h => messages_register_of_misses hnone h d⟩,
    fun shelf index r h edits => ⟨?_, ?_⟩, fun r t u f g h => ⟨?_, ?_, ?_, ?_⟩⟩
  · exact Registry.getElem?_edits (Registry.getElem?_clone h) edits
  · exact Registry.getElem?_edits (Registry.getElem?_edit h (.clone index)) edits
  · exact r.find?_register_comm h f g
  · exact Registry.tags_of_perm (r.perm_register_comm h f g)
  · exact (r.perm_register_comm h f g).length_eq
  · exact decode_congr fun tag => (r.find?_register_comm h f g tag).symm

/-- The registry of probes with a decoder for the strange tag. -/
def tolerant : Registry Probe := Probe.registry.register "Q" fun s => .ok (⟨0, false⟩, s.length)

theorem firstTagged_strange : FirstTagged Probe.registry strange "Q" 18 := by
  have hhead : Frame.head Probe.registry strange = .ok (some ⟨"P", ⟨7, false⟩, 18⟩) :=
    head_ofMessage (by decide) ⟨_, Registry.find?_register .., rfl⟩ _
  have hprobe : Frame.parse Probe.registry strange 0 = .ok (some (⟨7, false⟩, 18)) := by
    rw [Frame.parse, List.drop_zero, hhead]
    rfl
  refine ⟨.next .first hprobe, ⟨by decide, [], Frame.opens_body.2 ⟨by decide, [9], by decide⟩⟩, ?_⟩
  intro earlier hlt ha
  have hstart : ∀ place, Attempted Probe.registry strange place → place = 0 ∨ 18 ≤ place := by
    intro place ha
    induction ha with
    | first => exact .inl rfl
    | next _ hparse ih =>
      right
      rcases ih with rfl | hle
      · rw [hprobe] at hparse
        cases hparse
        exact Nat.le_refl _
      · have hmore := le_of_parse hparse
        omega
  obtain rfl : earlier = 0 := by
    rcases hstart earlier ha with h | h <;> omega
  rintro ⟨-, payload, hopens⟩
  have hbad : Frame.head Probe.registry (strange.drop 0) = .error (.unknownTag "Q") :=
    Frame.head_of_tagged ⟨by decide, payload, hopens⟩ rfl
  rw [Frame.parse, hbad] at hprobe
  cases hprobe

/-- With a decoder for the strange tag, decoding goes on behind the probe that it
found before. -/
theorem decode_local_strange :
    Probe.registry.AgreeOff "Q" tolerant ∧ FirstTagged Probe.registry strange "Q" 18 ∧
    decode tolerant (strange.take 18) = decode Probe.registry (strange.take 18) ∧
    18 ≤ (decode tolerant strange).consumed ∧
    Probe.registry.find? "Q" = none ∧ Misses Probe.registry strange "Q" ∧
    [⟨7, false⟩] <+: (decode tolerant strange).messages ∧
    decode (Probe.registry.register "R" fun _ => .ok (⟨0, false⟩, 0)) strange =
      decode Probe.registry strange := by
  have hagree : Probe.registry.AgreeOff "Q" tolerant := Probe.registry.agreeOff_register "Q" _
  have hmissing : Probe.registry.find? "Q" = none := rfl
  have hfirst := firstTagged_strange
  have hmisses := (consumed_of_tagged hmissing hfirst.attempted hfirst.tagged).2
  obtain ⟨hlocal, hnew, -, -⟩ := decode_local (μ := Probe)
  obtain ⟨hsame, -, -, -, -, hreaches⟩ := (hlocal _ tolerant "Q" hagree strange).2.2 18 hfirst
  have hbegins := (hnew Probe.registry "Q" hmissing (fun s => .ok (⟨0, false⟩, s.length)) strange).2
    hmisses
  have hother : ¬ Misses Probe.registry strange "R" := by
    intro h
    have hfault := h.1
    rw [decode_strange] at hfault
    simp [Report.fault?] at hfault
  rw [decode_strange] at hbegins
  exact ⟨hagree, hfirst, hsame, hreaches, hmissing, hmisses, hbegins,
    (hnew Probe.registry "R" rfl _ strange).1 hother⟩

end Datagram
end Tagram

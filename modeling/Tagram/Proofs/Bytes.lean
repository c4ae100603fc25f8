/-
# Byte strings, in both directions

Writing a number after reading it gives the bytes back, cutting a byte string
undoes joining two, and a text of ASCII bytes is its own bytes. With the
lemmas of `Tagram.Bytes` each codec is then one equation that can be read from
either side: `split?_eq_some`, `ofText_toLatin`, `toLatin_ofText`.

Key theorems: `Bytes.toBigEndian_ofBigEndian`, `Bytes.ofBigEndian_lt`,
`Bytes.split?_eq_some`, `Bytes.ofText_toLatin`, `Bytes.toLatin_ofText`.
-/
import Mathlib
import Tagram.Bytes

namespace Tagram
namespace Bytes

/-! ### Numbers -/

theorem ofBigEndian_nil : ofBigEndian [] = 0 := rfl

theorem ofBigEndian_lt (s : Bytes) : ofBigEndian s < 256 ^ s.length := by
  induction s using List.reverseRecOn with
  | nil => simp [ofBigEndian_nil]
  | append_singleton s b ih =>
    have hb : b.toNat < 256 := b.toNat_lt
    rw [ofBigEndian_concat, List.length_append, List.length_singleton, Nat.pow_succ]
    omega

/-- **Writing undoes reading.** -/
theorem toBigEndian_ofBigEndian (s : Bytes) : toBigEndian s.length (ofBigEndian s) = s := by
  induction s using List.reverseRecOn with
  | nil => rfl
  | append_singleton s b ih =>
    have hb : b.toNat < 256 := b.toNat_lt
    have hdiv : (ofBigEndian s * 256 + b.toNat) / 256 = ofBigEndian s := by omega
    have hmod : (ofBigEndian s * 256 + b.toNat) % 256 = b.toNat := by omega
    rw [ofBigEndian_concat, List.length_append, List.length_singleton, toBigEndian, hdiv, hmod, ih,
      UInt8.ofNat_toNat]

/-- **Reading undoes writing**, up to the digits that the width drops. -/
theorem ofBigEndian_toBigEndian : ∀ w n : Nat, ofBigEndian (toBigEndian w n) = n % 256 ^ w
  | 0, n => by simp [toBigEndian, ofBigEndian, Nat.mod_one]
  | w + 1, n => by
    have h : n % 256 % 2 ^ 8 = n % 256 := Nat.mod_eq_of_lt (by omega)
    rw [toBigEndian, ofBigEndian_concat, ofBigEndian_toBigEndian w, UInt8.toNat_ofNat', h,
      Nat.pow_succ', Nat.mod_mul, Nat.add_comm, Nat.mul_comm]

theorem ofBigEndian_toBigEndian_of_lt {w n : Nat} (h : n < 256 ^ w) :
    ofBigEndian (toBigEndian w n) = n := by
  rw [ofBigEndian_toBigEndian, Nat.mod_eq_of_lt h]

theorem eq_of_ofBigEndian_eq {s t : Bytes} (hl : s.length = t.length)
    (h : ofBigEndian s = ofBigEndian t) : s = t := by
  rw [← toBigEndian_ofBigEndian s, ← toBigEndian_ofBigEndian t, hl, h]

theorem toBigEndian_mod {s : Bytes} {w n : Nat} (hw : s.length = w) (hn : 256 ^ w = n) :
    toBigEndian w (ofBigEndian s % n) = s := by
  subst hw hn
  rw [Nat.mod_eq_of_lt (ofBigEndian_lt s), toBigEndian_ofBigEndian]

/-! ### Cutting -/

theorem split?_append {n : Nat} {s : Bytes} (t : Bytes) (h : s.length = n) :
    split? n (s ++ t) = some (s, t) := by
  rw [split?_eq, if_pos (by rw [List.length_append]; omega), List.take_left' h, List.drop_left' h]

/-- **Cutting undoes joining**, and nothing else is cut. -/
theorem split?_eq_some {n : Nat} {s front rest : Bytes} :
    split? n s = some (front, rest) ↔ front.length = n ∧ s = front ++ rest := by
  constructor
  · intro h
    rw [split?_eq] at h
    split at h
    · rename_i hn
      obtain ⟨rfl, rfl⟩ : s.take n = front ∧ s.drop n = rest := by simpa using h
      exact ⟨List.length_take_of_le hn, (List.take_append_drop n s).symm⟩
    · cases h
  · rintro ⟨hn, rfl⟩
    exact split?_append rest hn

theorem split?_eq_none {n : Nat} {s : Bytes} : split? n s = none ↔ s.length < n := by
  rw [split?_eq]
  split
  · simpa
  · simpa using by omega

/-! ### Texts -/

theorem ofText_injective {t u : String} (h : ofText t = ofText u) : t = u := by
  apply String.toByteArray_inj.1
  apply ByteArray.ext
  exact Array.toList_inj.1 h

/-- A character below 128 is written as one byte, its number. -/
theorem utf8EncodeChar_of_lt {b : UInt8} (h : b < 0x80) :
    String.utf8EncodeChar (Char.ofNat b.toNat) = [b] := by
  have hb : b.toNat < 128 := UInt8.lt_iff_toNat_lt.1 h
  have hv : (Char.ofNat b.toNat).val.toNat = b.toNat := by
    rw [Char.ofNat, dif_pos (Or.inl (by omega))]
    rfl
  have hs : (Char.ofNat b.toNat).utf8Size = 1 := by
    rw [Char.utf8Size_eq_one_iff, UInt32.le_iff_toNat_le, hv]
    exact Nat.le_of_lt_succ hb
  rw [String.utf8EncodeChar_eq_singleton hs]
  congr 1
  apply UInt8.toNat_inj.1
  rw [UInt32.toNat_toUInt8, hv]
  omega

theorem ofText_ofList (l : List Char) :
    ofText (String.ofList l) = l.flatMap String.utf8EncodeChar := by
  simp [ofText, List.utf8Encode]

theorem ofText_append (t u : String) : ofText (t ++ u) = ofText t ++ ofText u := by
  simp [ofText]

theorem toText?_ofText (t : String) : toText? (ofText t) = some t := by
  have hvalid : (⟨(ofText t).toArray⟩ : ByteArray).IsValidUTF8 := t.isValidUTF8
  rw [toText?, String.fromUTF8?, dif_pos hvalid]
  rfl

/-- A byte below 128 among the bytes of a character is that character. -/
theorem eq_of_mem_utf8EncodeChar {b : UInt8} {c : Char} (hb : b < 0x80)
    (h : b ∈ String.utf8EncodeChar c) : c = Char.ofNat b.toNat := by
  have hnat : b.toNat < 128 := UInt8.lt_iff_toNat_lt.1 hb
  -- All bytes of a longer encoding have the top bit set.
  have hhigh : ∀ n, 128 ≤ n → n < 256 → b ≠ UInt8.ofNat n := by
    rintro n hn hlt rfl
    rw [UInt8.toNat_ofNat', Nat.mod_eq_of_lt hlt] at hnat
    omega
  unfold String.utf8EncodeChar at h
  dsimp only at h
  split_ifs at h with h1 h2 h3 <;> simp only [List.mem_cons, List.not_mem_nil, or_false] at h
  · rw [h, UInt8.toNat_ofNat', Nat.mod_eq_of_lt (by omega)]
    exact (Char.ofNat_toNat c).symm
  · rcases h with h | h <;> exact absurd h (hhigh _ (by omega) (by omega))
  · rcases h with h | h | h <;> exact absurd h (hhigh _ (by omega) (by omega))
  · rcases h with h | h | h | h <;> exact absurd h (hhigh _ (by omega) (by omega))

theorem mem_of_mem_ofText {b : UInt8} {t : String} (hb : b < 0x80) (h : b ∈ ofText t) :
    Char.ofNat b.toNat ∈ t.toList := by
  rw [← String.ofList_toList (s := t), ofText_ofList] at h
  obtain ⟨c, hc, hmem⟩ := List.mem_flatMap.1 h
  rwa [← eq_of_mem_utf8EncodeChar hb hmem]

theorem ofText_toLatin {s : Bytes} (h : isAscii s = true) : ofText (toLatin s) = s := by
  rw [toLatin, ofText_ofList, List.flatMap_map]
  induction s with
  | nil => rfl
  | cons b s ih =>
    obtain ⟨hb, hs⟩ : b < 0x80 ∧ isAscii s = true := by simpa [isAscii] using h
    rw [List.flatMap_cons, utf8EncodeChar_of_lt hb, ih hs, List.singleton_append]

theorem toLatin_ofText {t : String} (h : isAscii (ofText t) = true) : toLatin (ofText t) = t :=
  ofText_injective (ofText_toLatin h)

end Bytes
end Tagram

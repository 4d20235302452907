import DocSync.Proofs.Data.ByteOrder
import DocSync.Uri.Percent
import Mathlib.Tactic.IntervalCases

/-!
# Decoding what was encoded

Bytes that were percent encoded are found again, whichever bytes the part of the URI does not hold,
as long as a `%` is one of them. The encoded text is ASCII and holds no character that was to be
encoded.
-/
namespace DocSync

theorem toList_loop (bytes : ByteArray) (i : Nat) (done : List UInt8) :
    ByteArray.toList.loop bytes i done = done.reverse ++ bytes.data.toList.drop i := by
  have hsize : bytes.size = bytes.data.toList.length := by
    rw [Array.length_toList]
    rfl
  induction hleft : bytes.size - i generalizing i done with
  | zero =>
    have hlen : bytes.data.toList.length ≤ i := by omega
    rw [ByteArray.toList.loop, if_neg (by omega), List.drop_of_length_le hlen, List.append_nil]
  | succ left ih =>
    have hlt : i < bytes.data.toList.length := by omega
    have hget : bytes.get! i = bytes.data.toList[i] := by
      obtain ⟨array⟩ := bytes
      have hsome : i < array.size := by simpa using hlt
      simp [ByteArray.get!, hsome]
    rw [ByteArray.toList.loop, if_pos (by omega), ih _ _ (by omega), List.drop_eq_getElem_cons hlt,
      hget, List.reverse_cons, List.append_assoc, List.singleton_append]

theorem toUTF8_toList (s : String) : s.toUTF8.toList = utf8Bytes s := by
  rw [ByteArray.toList, toList_loop]
  rfl

namespace Percent

theorem utf8_eq (cs : List Char) : utf8 cs = cs.flatMap String.utf8EncodeChar := by
  rw [utf8, toUTF8_toList, utf8Bytes_eq, String.toList_ofList]

theorem utf8_append (cs ds : List Char) : utf8 (cs ++ ds) = utf8 cs ++ utf8 ds := by
  rw [utf8_eq, utf8_eq, utf8_eq, List.flatMap_append]

theorem utf8_singleton {c : Char} (h : c.toNat < 128) : utf8 [c] = [UInt8.ofNat c.toNat] := by
  have hle : c.val.toNat ≤ 0x7f := by
    have : c.val.toNat = c.toNat := rfl
    omega
  rw [utf8_eq, List.flatMap_singleton, String.utf8EncodeChar]
  simp only [if_pos hle]
  rfl

theorem utf8_cons {c : Char} (h : c.toNat < 128) (cs : List Char) :
    utf8 (c :: cs) = UInt8.ofNat c.toNat :: utf8 cs := by
  have hsplit := utf8_append [c] cs
  rwa [utf8_singleton h] at hsplit

/-! ## Decoding -/

theorem decode_cons {b : UInt8} (h : b ≠ 0x25) (rest : List UInt8) :
    decode (b :: rest) = b :: decode rest := by
  rw [decode]
  intro x y others hb
  exact absurd hb h

theorem upperHex_lt {n : Nat} (h : n < 16) : (upperHex n).toNat < 128 := by
  interval_cases n <;> decide

theorem hexValue?_upperHex {n : Nat} (h : n < 16) :
    hexValue? (UInt8.ofNat (upperHex n).toNat) = some (UInt8.ofNat n) := by
  interval_cases n <;> decide

theorem decode_escape (b : UInt8) (rest : List UInt8) :
    decode (utf8 ['%', upperHex (b.toNat / 16), upperHex (b.toNat % 16)] ++ rest) =
      b :: decode rest := by
  have hb : b.toNat < 256 := b.toNat_lt
  have hhigh : b.toNat / 16 < 16 := by omega
  have hlow : b.toNat % 16 < 16 := by omega
  rw [utf8_cons (by decide), utf8_cons (upperHex_lt hhigh), utf8_singleton (upperHex_lt hlow)]
  show decode (0x25 :: _ :: _ :: rest) = _
  rw [decode, hexValue?_upperHex hhigh, hexValue?_upperHex hlow]
  dsimp only
  congr 1
  have hsixteen : (16 : UInt8).toNat = 16 := rfl
  rw [← UInt8.toNat_inj]
  simp only [UInt8.toNat_add, UInt8.toNat_mul, UInt8.toNat_ofNat', hsixteen, Nat.reducePow]
  omega

/-! ## Encoding -/

/-- A byte is written as an escape, or as the ASCII character that it is. -/
theorem encodeByte_cases (set : EncodeSet) (b : UInt8) :
    encodeByte set b = ['%', upperHex (b.toNat / 16), upperHex (b.toNat % 16)] ∨
      b.toNat < 128 ∧ Char.ofNat b.toNat ∉ set ∧ encodeByte set b = [Char.ofNat b.toNat] := by
  unfold encodeByte
  dsimp only
  split
  · exact .inl rfl
  · rename_i h
    simp only [Bool.or_eq_true, not_or, decide_eq_true_eq, List.contains_iff_mem] at h
    obtain ⟨⟨-, hbelow⟩, hset⟩ := h
    have hlt : b.toNat < 127 := by
      rw [UInt8.not_le, UInt8.lt_iff_toNat_lt] at hbelow
      exact hbelow
    exact .inr ⟨by omega, hset, rfl⟩

theorem toNat_ofNat {n : Nat} (h : n < 128) : (Char.ofNat n).toNat = n := by
  interval_cases n <;> rfl

theorem decode_encodeByte {set : EncodeSet} (hset : '%' ∈ set) (b : UInt8) (rest : List UInt8) :
    decode (utf8 (encodeByte set b) ++ rest) = b :: decode rest := by
  rcases encodeByte_cases set b with hescape | ⟨hlt, hnot, hchar⟩
  · rw [hescape, decode_escape]
  · have hne : b ≠ 0x25 := by
      rintro rfl
      exact hnot hset
    rw [hchar, utf8_singleton (by rwa [toNat_ofNat hlt]), toNat_ofNat hlt, List.singleton_append,
      UInt8.ofNat_toNat, decode_cons hne]

/-- Encoded bytes are found again, whatever follows them. -/
theorem decode_encodeBytes {set : EncodeSet} (hset : '%' ∈ set) (bytes rest : List UInt8) :
    decode (utf8 (encodeBytes set bytes) ++ rest) = bytes ++ decode rest := by
  induction bytes with
  | nil => rw [encodeBytes, List.flatMap_nil, utf8_eq, List.flatMap_nil, List.nil_append,
      List.nil_append]
  | cons b bytes ih =>
    rw [encodeBytes, List.flatMap_cons, utf8_append, List.append_assoc, decode_encodeByte hset,
      List.cons_append]
    exact congrArg (b :: ·) ih

theorem notMem_encodeBytes {set : EncodeSet} {c : Char} (hc : c ∈ set)
    (hdigit : c ≠ '%' ∧ ∀ n < 16, c ≠ upperHex n) (bytes : List UInt8) :
    c ∉ encodeBytes set bytes := by
  intro hmem
  obtain ⟨b, -, hb⟩ := List.mem_flatMap.mp hmem
  have hlt : b.toNat < 256 := b.toNat_lt
  rcases encodeByte_cases set b with hescape | ⟨-, hnot, hchar⟩
  · rw [hescape] at hb
    simp only [List.mem_cons, List.not_mem_nil, or_false] at hb
    rcases hb with rfl | rfl | rfl
    · exact hdigit.1 rfl
    · exact hdigit.2 _ (by omega) rfl
    · exact hdigit.2 _ (by omega) rfl
  · rw [hchar, List.mem_singleton] at hb
    exact hnot (hb ▸ hc)

end Percent

end DocSync

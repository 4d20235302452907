import Mathlib.Data.String.Basic

/-!
# The byte order of texts

Texts are compared code point by code point. Comparing their UTF-8 forms byte by byte comes to the
same: of two different characters the lesser one has the lesser byte where their forms first differ,
and neither form goes on where the other ends.
-/
namespace DocSync

/-- The UTF-8 form of a text. -/
def utf8Bytes (s : String) : List UInt8 := s.toUTF8.data.toList

theorem utf8Bytes_eq (s : String) : utf8Bytes s = s.toList.flatMap String.utf8EncodeChar := by
  have h : s.toUTF8 = s.toList.utf8Encode := by
    rw [String.toUTF8_eq_toByteArray, ← String.toByteArray_ofList, String.ofList_toList]
  rw [utf8Bytes, h]
  exact List.toList_data_toByteArray

/-- One list of bytes is less than another by a byte that both have. -/
inductive Below : List UInt8 → List UInt8 → Prop
  | head {x y : UInt8} (h : x < y) (u v : List UInt8) : Below (x :: u) (y :: v)
  | cons (x : UInt8) {u v : List UInt8} (h : Below u v) : Below (x :: u) (x :: v)

theorem Below.append_lt {u v : List UInt8} (h : Below u v) (a b : List UInt8) :
    u ++ a < v ++ b := by
  induction h with
  | head h u v => exact List.Lex.rel h
  | cons x _ ih => exact List.Lex.cons ih

/-- The lesser of two first bytes decides, and if they are the same what follows does. -/
theorem below_ofNat {m n : Nat} {u v : List UInt8} (hn : n < 256) (hle : m ≤ n)
    (h : m = n → Below u v) : Below (UInt8.ofNat m :: u) (UInt8.ofNat n :: v) := by
  rcases Nat.lt_or_eq_of_le hle with hlt | rfl
  · refine .head ?_ u v
    rw [UInt8.lt_iff_toNat_lt, UInt8.toNat_ofNat', UInt8.toNat_ofNat']
    omega
  · exact .cons _ (h rfl)

theorem below_utf8EncodeChar {c d : Char} (h : c < d) :
    Below (String.utf8EncodeChar c) (String.utf8EncodeChar d) := by
  have hlt : c.val.toNat < d.val.toNat := h
  have hmax : d.val.toNat < 0x110000 := by
    have hvalid := d.valid
    simp only [UInt32.isValidChar, Nat.isValidChar] at hvalid
    omega
  unfold String.utf8EncodeChar
  generalize c.val.toNat = m at hlt
  generalize d.val.toNat = n at hlt hmax
  dsimp only
  -- Forms of different lengths differ in their first byte, which tells the length.
  by_cases hm1 : m ≤ 0x7f
  · rw [if_pos hm1]
    split
    · exact below_ofNat (by omega) (by omega) fun _ => by omega
    · split
      · exact below_ofNat (by omega) (by omega) fun _ => by omega
      · split <;> exact below_ofNat (by omega) (by omega) fun _ => by omega
  · rw [if_neg hm1, if_neg (by omega : ¬ n ≤ 0x7f)]
    by_cases hm2 : m ≤ 0x7ff
    · rw [if_pos hm2]
      split
      · exact below_ofNat (by omega) (by omega) fun _ =>
          below_ofNat (by omega) (by omega) fun _ => by omega
      · split <;> exact below_ofNat (by omega) (by omega) fun _ => by omega
    · rw [if_neg hm2, if_neg (by omega : ¬ n ≤ 0x7ff)]
      by_cases hm3 : m ≤ 0xffff
      · rw [if_pos hm3]
        split
        · exact below_ofNat (by omega) (by omega) fun _ =>
            below_ofNat (by omega) (by omega) fun _ =>
              below_ofNat (by omega) (by omega) fun _ => by omega
        · exact below_ofNat (by omega) (by omega) fun _ => by omega
      · rw [if_neg hm3, if_neg (by omega : ¬ n ≤ 0xffff)]
        exact below_ofNat (by omega) (by omega) fun _ =>
          below_ofNat (by omega) (by omega) fun _ =>
            below_ofNat (by omega) (by omega) fun _ =>
              below_ofNat (by omega) (by omega) fun _ => by omega

theorem flatMap_utf8EncodeChar_lt {cs ds : List Char} (h : cs < ds) :
    cs.flatMap String.utf8EncodeChar < ds.flatMap String.utf8EncodeChar := by
  induction h with
  | @nil d ds =>
    have hne : (d :: ds).flatMap String.utf8EncodeChar ≠ [] := by
      simp [String.utf8EncodeChar_ne_nil]
    obtain ⟨x, rest, hform⟩ := List.exists_cons_of_ne_nil hne
    rw [List.flatMap_nil, hform]
    exact List.nil_lt_cons x rest
  | rel hlt =>
    rw [List.flatMap_cons, List.flatMap_cons]
    exact (below_utf8EncodeChar hlt).append_lt _ _
  | cons _ ih =>
    rw [List.flatMap_cons, List.flatMap_cons]
    exact List.append_left_lt ih

/-- Texts are in the order of their bytes. -/
theorem lt_iff_utf8Bytes_lt (s t : String) : s < t ↔ utf8Bytes s < utf8Bytes t := by
  have hlt {s t : String} (h : s < t) : utf8Bytes s < utf8Bytes t := by
    rw [utf8Bytes_eq, utf8Bytes_eq]
    exact flatMap_utf8EncodeChar_lt h
  refine ⟨hlt, fun h => ?_⟩
  by_contra hnot
  rcases lt_or_eq_of_le (not_lt.mp hnot) with hgt | rfl
  · exact List.lt_asymm h (hlt hgt)
  · exact List.lt_irrefl _ h

end DocSync

import Mathlib.Order.Basic

/-! Texts have the same order by their characters and by their bytes. -/

namespace Briefing.Text

def bytes (s : String) : List UInt8 := s.toUTF8.data.toList

theorem bytes_eq (s : String) : bytes s = s.toList.flatMap String.utf8EncodeChar := by
  have whole : s.toUTF8 = s.toList.utf8Encode := by
    rw [String.toUTF8_eq_toByteArray, ← String.toByteArray_ofList, String.ofList_toList]
  rw [bytes, whole, List.utf8Encode, List.data_toByteArray]

theorem byte_lt {m n : Nat} (hm : m < 256) (hn : n < 256) :
    UInt8.ofNat m < UInt8.ofNat n ↔ m < n := by
  rw [UInt8.lt_iff_toNat_lt, UInt8.toNat_ofNat_of_lt' hm, UInt8.toNat_ofNat_of_lt' hn]

theorem byte_eq {m n : Nat} (hm : m < 256) (hn : n < 256) :
    UInt8.ofNat m = UInt8.ofNat n ↔ m = n := by
  rw [← UInt8.toNat_inj, UInt8.toNat_ofNat_of_lt' hm, UInt8.toNat_ofNat_of_lt' hn]

/-- Of two characters that take four bytes each, the first byte in which they differ is smaller in
the smaller one. -/
theorem sextets_lt {m n : Nat} (less : m < n) (top : n < 0x110000) {rest : Prop} :
    m / 262144 % 8 + 240 < n / 262144 % 8 + 240 ∨
      m / 262144 % 8 + 240 = n / 262144 % 8 + 240 ∧
        (m / 4096 % 64 + 128 < n / 4096 % 64 + 128 ∨
          m / 4096 % 64 + 128 = n / 4096 % 64 + 128 ∧
            (m / 64 % 64 + 128 < n / 64 % 64 + 128 ∨
              m / 64 % 64 + 128 = n / 64 % 64 + 128 ∧
                (m % 64 + 128 < n % 64 + 128 ∨ m % 64 + 128 = n % 64 + 128 ∧ rest))) := by
  rw [Nat.mod_eq_of_lt (by omega : m / 262144 < 8), Nat.mod_eq_of_lt (by omega : n / 262144 < 8)]
  by_cases first : m / 262144 = n / 262144
  · by_cases second : m / 4096 = n / 4096
    · by_cases third : m / 64 = n / 64
      · omega
      · omega
    · omega
  · omega

-- With fewer than four bytes, or with two numbers of bytes, this is linear arithmetic.
theorem encode_lt {c d : Char} (h : c < d) (x y : List UInt8) :
    String.utf8EncodeChar c ++ x < String.utf8EncodeChar d ++ y := by
  have less : c.val.toNat < d.val.toNat := h
  have top : d.val.toNat < 0x110000 := by
    have valid := d.valid
    simp only [UInt32.isValidChar, Nat.isValidChar] at valid
    omega
  simp only [String.utf8EncodeChar]
  generalize c.val.toNat = m at less ⊢
  generalize d.val.toNat = n at less top ⊢
  split_ifs <;>
    simp (disch := omega) only [List.cons_append, List.cons_lt_cons_iff, byte_lt, byte_eq]
  all_goals first | omega | exact sextets_lt less top

theorem flatMap_encode_lt {s t : List Char} (h : s < t) :
    s.flatMap String.utf8EncodeChar < t.flatMap String.utf8EncodeChar := by
  induction s generalizing t with
  | nil =>
      cases t with
      | nil => exact absurd h (List.not_lt_nil [])
      | cons d t =>
          rw [List.flatMap_nil, List.flatMap_cons]
          cases first : String.utf8EncodeChar d with
          | nil => exact absurd first String.utf8EncodeChar_ne_nil
          | cons b bs => exact List.nil_lt_cons b _
  | cons c s ih =>
      cases t with
      | nil => exact absurd h (List.not_lt_nil (c :: s))
      | cons d t =>
          rw [List.flatMap_cons, List.flatMap_cons]
          rcases List.cons_lt_cons_iff.mp h with first | ⟨rfl, later⟩
          · exact encode_lt first _ _
          · exact List.append_left_lt (ih later)

theorem bytes_lt {s t : String} (h : s < t) : bytes s < bytes t := by
  have chars : s.toList < t.toList := h
  rw [bytes_eq, bytes_eq]
  exact flatMap_encode_lt chars

end Briefing.Text

import Mathlib.Tactic.SplitIfs

/-! # Order of bytes

Texts are compared by their characters. The bytes that they are written in come in the same order.
-/

namespace TableIntake.Text

def BytesBefore (left right : String) : Prop :=
  left.toUTF8.data.toList < right.toUTF8.data.toList

theorem toList_toUTF8 (text : String) :
    text.toUTF8.data.toList = text.toList.flatMap String.utf8EncodeChar := by
  rw [String.toUTF8_eq_toByteArray, ← String.utf8Encode_toList, List.utf8Encode,
    List.toList_data_toByteArray]

theorem toNat_le_of_char (c : Char) : c.val.toNat ≤ 0x10ffff := by
  rcases c.valid with low | ⟨_, high⟩
  · have low : c.val.toNat < 0xd800 := low
    omega
  · exact Nat.le_of_lt_succ high

theorem ofNat_cons_lt_iff {first other : Nat} {rest others : List UInt8} (byte : first < 256)
    (otherByte : other < 256) :
    UInt8.ofNat first :: rest < UInt8.ofNat other :: others ↔
      first < other ∨ first = other ∧ rest < others := by
  rw [List.cons_lt_cons_iff, UInt8.lt_iff_toNat_lt, ← UInt8.toNat_inj,
    UInt8.toNat_ofNat_of_lt' byte, UInt8.toNat_ofNat_of_lt' otherByte]

/-- The bytes of a character come before those of every later one, whatever follows them. -/
theorem utf8EncodeChar_append_lt {c d : Char} (less : c < d) (rest others : List UInt8) :
    String.utf8EncodeChar c ++ rest < String.utf8EncodeChar d ++ others := by
  have less : c.val.toNat < d.val.toNat := less
  have bound := toNat_le_of_char d
  -- Every byte but the first holds six bits, so the number is divided by 64 again and again.
  have twice (value : Nat) : value / 4096 = value / 64 / 64 := by omega
  have thrice (value : Nat) : value / 262144 = value / 64 / 64 / 64 := by omega
  simp only [String.utf8EncodeChar, twice, thrice]
  -- A longer form starts with a greater byte, and forms of one length differ like their numbers.
  split_ifs
  all_goals
    simp (disch := omega) only [List.cons_append, List.nil_append, ofNat_cons_lt_iff]
    omega

theorem flatMap_utf8EncodeChar_lt {left right : List Char} (less : left < right) :
    left.flatMap String.utf8EncodeChar < right.flatMap String.utf8EncodeChar := by
  induction less with
  | @nil c rest =>
      rcases List.exists_cons_of_ne_nil (String.utf8EncodeChar_ne_nil (c := c)) with
        ⟨first, others, bytes⟩
      rw [List.flatMap_nil, List.flatMap_cons, bytes]
      exact List.nil_lt_cons _ _
  | cons _ induction =>
      rw [List.flatMap_cons, List.flatMap_cons]
      exact List.append_left_lt induction
  | rel less =>
      rw [List.flatMap_cons, List.flatMap_cons]
      exact utf8EncodeChar_append_lt less _ _

theorem bytesBefore_of_lt {left right : String} (less : left < right) :
    BytesBefore left right := by
  rw [BytesBefore, toList_toUTF8, toList_toUTF8]
  exact flatMap_utf8EncodeChar_lt less

end TableIntake.Text

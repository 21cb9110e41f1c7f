import Relay.Wire.Writer

/-!
# The order of texts and of their bytes

Keys are compared as texts, character by character.  The byte form compares in the same way: the
bytes of a smaller character are smaller whatever follows, because the number of bytes grows with
the character and shows in the first byte.  So keys ascend exactly when their bytes do.
-/

namespace Relay

theorem ofNat_cons_lt {m n : Nat} {xs ys : List UInt8} (hm : m < 256) (hn : n < 256) :
    UInt8.ofNat m :: xs < UInt8.ofNat n :: ys ↔ m < n ∨ m = n ∧ xs < ys := by
  have hm' : (UInt8.ofNat m).toNat = m := by simpa using Nat.mod_eq_of_lt hm
  have hn' : (UInt8.ofNat n).toNat = n := by simpa using Nat.mod_eq_of_lt hn
  rw [List.cons_lt_cons_iff, UInt8.lt_iff_toNat_lt, ← UInt8.toNat_inj, hm', hn']

/-- The bytes of a smaller character come first, whatever stands behind either. -/
theorem utf8EncodeChar_append_lt {c d : Char} (h : c < d) (xs ys : List UInt8) :
    String.utf8EncodeChar c ++ xs < String.utf8EncodeChar d ++ ys := by
  have hlt : c.val.toNat < d.val.toNat := h
  have hbound : d.val.toNat < 1114112 := by
    have := d.valid
    simp only [UInt32.isValidChar, Nat.isValidChar] at this
    omega
  simp only [String.utf8EncodeChar]
  generalize c.val.toNat = m at *
  generalize d.val.toNat = n at *
  -- Every byte but the first holds one digit to the base 64.
  have h4096 (k : Nat) : k / 4096 = k / 64 / 64 := by omega
  have h262144 (k : Nat) : k / 262144 = k / 64 / 64 / 64 := by omega
  simp only [h4096, h262144]
  repeat' split
  all_goals simp (disch := omega) only [List.cons_append, ofNat_cons_lt]
  all_goals omega

theorem toByteArray_toList (s : String) :
    s.toByteArray.data.toList = s.toList.flatMap String.utf8EncodeChar := by
  rw [← String.utf8Encode_toList, List.utf8Encode, List.toList_data_toByteArray]

theorem flatMap_utf8EncodeChar_lt {cs ds : List Char} (h : cs < ds) :
    cs.flatMap String.utf8EncodeChar < ds.flatMap String.utf8EncodeChar := by
  induction cs generalizing ds with
  | nil =>
    cases ds with
    | nil => exact (List.lt_irrefl _ h).elim
    | cons d ds =>
      rw [List.flatMap_nil, List.flatMap_cons]
      cases hd : String.utf8EncodeChar d with
      | nil => exact (String.utf8EncodeChar_ne_nil hd).elim
      | cons b bs => exact List.nil_lt_cons _ _
  | cons c cs ih =>
    cases ds with
    | nil => exact (List.not_lt_nil _ h).elim
    | cons d ds =>
      rw [List.flatMap_cons, List.flatMap_cons]
      rcases List.cons_lt_cons_iff.1 h with hcd | ⟨rfl, hrest⟩
      · exact utf8EncodeChar_append_lt hcd _ _
      · exact List.append_left_lt (ih hrest)

theorem textBytes_lt {a b : String} (h : a < b) : Write.textBytes a < Write.textBytes b := by
  rw [Write.textBytes, Write.textBytes, toByteArray_toList, toByteArray_toList]
  exact flatMap_utf8EncodeChar_lt h

theorem compare_eq_lt_iff_textBytes {a b : String} :
    compare a b = .lt ↔ Write.textBytes a < Write.textBytes b := by
  have hcompare : compare a b = .lt ↔ a < b := compareOfLessAndEq_eq_lt
  rw [hcompare]
  refine ⟨textBytes_lt, fun hbytes => Decidable.byContradiction fun hnot => ?_⟩
  by_cases hba : b < a
  · exact List.lt_asymm hbytes (textBytes_lt hba)
  · have heq : a = b := String.le_antisymm (String.not_lt.1 hba) (String.not_lt.1 hnot)
    exact List.lt_irrefl _ (heq ▸ hbytes)

end Relay

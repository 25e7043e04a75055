import FleetScaling.Proofs.Text.Utf8

/-!
# The order of bytes

Texts are compared character by character. That is how their bytes compare too: the bytes of a
greater character first differ by a greater one (`encoded_lt`), so nothing that follows matters.
`lt_iff_bytes_lt` puts this together.
-/

namespace FleetScaling.Text

/-! ## Characters -/

/-- Bytes are compared by the first of them, and by the rest only if that is the same. -/
theorem cons_lt_cons_of_le {k n : Nat} (hn : n < 256) (hkn : k ≤ n) {a b : List UInt8}
    (rest : k = n → a < b) : UInt8.ofNat k :: a < UInt8.ofNat n :: b := by
  rw [List.cons_lt_cons_iff, UInt8.lt_iff_toNat_lt, toNat_ofNat hn, toNat_ofNat (by omega)]
  rcases Nat.lt_or_eq_of_le hkn with h | h
  · exact .inl h
  · exact .inr ⟨congrArg UInt8.ofNat h, rest h⟩

/-- The bytes of the lesser of two characters come first, whatever follows them. -/
theorem encoded_lt {c d : Char} (h : c < d) (after after' : List UInt8) :
    String.utf8EncodeChar c ++ after < String.utf8EncodeChar d ++ after' := by
  have hcd : c.toNat < d.toNat := h
  have hd := toNat_valid d
  rw [String.utf8EncodeChar.eq_1, String.utf8EncodeChar.eq_1, show c.val.toNat = c.toNat from rfl,
    show d.val.toNat = d.toNat from rfl]
  generalize c.toNat = m at *
  generalize d.toNat = n at *
  -- Fewer bytes have a lesser first one; of equally many, the first that differs decides.
  by_cases h₁ : m ≤ 127
  · rw [if_pos h₁]
    split
    · exact cons_lt_cons_of_le (by omega) (by omega) (by omega)
    · split
      · exact cons_lt_cons_of_le (by omega) (by omega) (by omega)
      · split <;> exact cons_lt_cons_of_le (by omega) (by omega) (by omega)
  rw [if_neg h₁, if_neg (show ¬ n ≤ 127 by omega)]
  by_cases h₂ : m ≤ 2047
  · rw [if_pos h₂]
    split
    · refine cons_lt_cons_of_le (by omega) (by omega) fun _ => ?_
      exact cons_lt_cons_of_le (by omega) (by omega) (by omega)
    · split <;> exact cons_lt_cons_of_le (by omega) (by omega) (by omega)
  rw [if_neg h₂, if_neg (show ¬ n ≤ 2047 by omega)]
  by_cases h₃ : m ≤ 65535
  · rw [if_pos h₃]
    split
    · refine cons_lt_cons_of_le (by omega) (by omega) fun _ => ?_
      refine cons_lt_cons_of_le (by omega) (by omega) fun _ => ?_
      exact cons_lt_cons_of_le (by omega) (by omega) (by omega)
    · exact cons_lt_cons_of_le (by omega) (by omega) (by omega)
  · rw [if_neg h₃, if_neg (show ¬ n ≤ 65535 by omega)]
    refine cons_lt_cons_of_le (by omega) (by omega) fun _ => ?_
    refine cons_lt_cons_of_le (by omega) (by omega) fun _ => ?_
    refine cons_lt_cons_of_le (by omega) (by omega) fun _ => ?_
    exact cons_lt_cons_of_le (by omega) (by omega) (by omega)

/-! ## Texts -/

theorem bytes_lt {cs ds : List Char} (h : cs < ds) :
    cs.flatMap String.utf8EncodeChar < ds.flatMap String.utf8EncodeChar := by
  induction h with
  | @nil d ds =>
    obtain ⟨b, bytes, hd⟩ := List.exists_cons_of_ne_nil (String.utf8EncodeChar_ne_nil (c := d))
    rw [List.flatMap_nil, List.flatMap_cons, hd]
    exact List.nil_lt_cons b _
  | @rel c cs d ds h => exact encoded_lt h _ _
  | @cons c cs ds _ ih => exact List.append_left_lt ih

/-- **The order of texts is that of their bytes.** -/
theorem lt_iff_bytes_lt (a b : String) : a < b ↔ a.toUTF8.toList < b.toUTF8.toList := by
  rw [toList_toUTF8, toList_toUTF8]
  refine ⟨bytes_lt, fun h => Decidable.byContradiction fun hab => ?_⟩
  by_cases hba : b < a
  · exact List.lt_asymm h (bytes_lt hba)
  · rw [String.le_antisymm hba hab] at h
    exact List.lt_irrefl _ h

end FleetScaling.Text

import FleetScaling.Text.Utf8

/-!
# UTF-8 that was written

The bytes of a text are read back as the text (`readUtf8?_toUTF8`). Each character is a first byte
that says how many follow, and the bounds of the second byte leave none of its forms out.
-/

namespace FleetScaling.Text

/-! ## Characters -/

theorem toNat_ofNat {k : Nat} (h : k < 256) : (UInt8.ofNat k).toNat = k := by
  rw [UInt8.toNat_ofNat', Nat.mod_eq_of_lt h]

/-- A following byte within its bounds adds its six bits. -/
theorem readFollowing_byte {count k bits : Nat} {low high : UInt8} (hk : k < 64)
    (hl : low.toNat ≤ k + 128) (hh : k + 128 ≤ high.toNat) (bytes : List UInt8) :
    readFollowing (count + 1) low high bits (UInt8.ofNat (k + 128) :: bytes) =
      readFollowing count 0x80 0xBF (64 * bits + k) bytes := by
  have hb : (UInt8.ofNat (k + 128)).toNat = k + 128 := toNat_ofNat (by omega)
  unfold readFollowing
  rw [if_pos ⟨by rwa [UInt8.le_iff_toNat_le, hb], by rwa [UInt8.le_iff_toNat_le, hb]⟩, hb,
    Nat.add_sub_cancel]
  rw [← readFollowing.eq_def]

theorem decodeBytes_ascii {k : Nat} (hk : k < 128) (bytes : List UInt8) :
    decodeBytes (UInt8.ofNat k :: bytes) = some (Char.ofNat k) :: decodeBytes bytes := by
  have hb : (UInt8.ofNat k).toNat = k := toNat_ofNat (by omega)
  have hlt : UInt8.ofNat k < 0x80 := by
    rw [UInt8.lt_iff_toNat_lt, hb]
    exact hk
  rw [decodeBytes, if_pos hlt, hb]

/-- A first byte, and the bytes that it announces. -/
theorem decodeBytes_lead {k n : Nat} (hk : 128 ≤ k) (hlt : k < 256) {lead : Lead}
    (hlead : lead? (UInt8.ofNat k) = some lead) {bytes rest : List UInt8}
    (hread : readFollowing lead.following lead.low lead.high lead.bits bytes = (some n, rest)) :
    decodeBytes (UInt8.ofNat k :: bytes) = some (Char.ofNat n) :: decodeBytes rest := by
  have hb : ¬ UInt8.ofNat k < 0x80 := by
    rw [UInt8.lt_iff_toNat_lt, toNat_ofNat hlt]
    exact Nat.not_lt.2 hk
  rw [decodeBytes, if_neg hb, hlead]
  dsimp only
  rw [hread]
  rfl

theorem lead?_two {k : Nat} (hl : 2 ≤ k) (hh : k < 32) :
    lead? (UInt8.ofNat (k + 192)) = some ⟨k, 0x80, 0xBF, 1⟩ := by
  unfold lead?
  rw [toNat_ofNat (by omega)]
  dsimp only
  rw [if_neg (by omega), if_pos (by omega), show k + 192 - 0xC0 = k by omega]

theorem lead?_three {k : Nat} (hh : k < 16) : lead? (UInt8.ofNat (k + 224)) =
    some ⟨k, if k = 0 then 0xA0 else 0x80, if k = 13 then 0x9F else 0xBF, 2⟩ := by
  unfold lead?
  rw [toNat_ofNat (by omega)]
  dsimp only
  rw [if_neg (by omega), if_neg (by omega), if_pos (by omega), show k + 224 - 0xE0 = k by omega]
  simp only [show (k + 224 = 0xE0) = (k = 0) by simp, show (k + 224 = 0xED) = (k = 13) by simp]

theorem lead?_four {k : Nat} (hh : k ≤ 4) : lead? (UInt8.ofNat (k + 240)) =
    some ⟨k, if k = 0 then 0x90 else 0x80, if k = 4 then 0x8F else 0xBF, 3⟩ := by
  unfold lead?
  rw [toNat_ofNat (by omega)]
  dsimp only
  rw [if_neg (by omega), if_neg (by omega), if_neg (by omega), if_pos (by omega),
    show k + 240 - 0xF0 = k by omega]
  simp only [show (k + 240 = 0xF0) = (k = 0) by simp, show (k + 240 = 0xF4) = (k = 4) by simp]

/-- No code point is a surrogate or beyond the last. -/
theorem toNat_valid (c : Char) : c.toNat < 0xD800 ∨ 0xDFFF < c.toNat ∧ c.toNat < 0x110000 := c.valid

section Char

variable {n : Nat} (bytes : List UInt8)

theorem decodeBytes_two (hl : 128 ≤ n) (hh : n ≤ 2047) :
    decodeBytes (UInt8.ofNat (n / 64 % 32 + 192) :: UInt8.ofNat (n % 64 + 128) :: bytes) =
      some (Char.ofNat n) :: decodeBytes bytes := by
  rw [Nat.mod_eq_of_lt (show n / 64 < 32 by omega)]
  refine decodeBytes_lead (by omega) (by omega) (lead?_two (by omega) (by omega)) ?_
  rw [readFollowing_byte (by omega) (by show 128 ≤ _; omega) (by show _ ≤ 191; omega)]
  show (some (64 * (n / 64) + n % 64), bytes) = _
  rw [Nat.div_add_mod]

theorem decodeBytes_three (hl : 2048 ≤ n) (hh : n ≤ 65535) (hv : n < 0xD800 ∨ 0xDFFF < n) :
    decodeBytes (UInt8.ofNat (n / 4096 % 16 + 224) :: UInt8.ofNat (n / 64 % 64 + 128) ::
      UInt8.ofNat (n % 64 + 128) :: bytes) = some (Char.ofNat n) :: decodeBytes bytes := by
  rw [Nat.mod_eq_of_lt (show n / 4096 < 16 by omega)]
  refine decodeBytes_lead (by omega) (by omega) (lead?_three (by omega)) ?_
  -- Overlong forms would have a smaller second byte, surrogates a larger one.
  have low : (if n / 4096 = 0 then (0xA0 : UInt8) else 0x80).toNat ≤ n / 64 % 64 + 128 := by
    split
    · show 160 ≤ _
      omega
    · show 128 ≤ _
      omega
  have high : n / 64 % 64 + 128 ≤ (if n / 4096 = 13 then (0x9F : UInt8) else 0xBF).toNat := by
    split
    · show _ ≤ 159
      omega
    · show _ ≤ 191
      omega
  rw [readFollowing_byte (by omega) low high,
    readFollowing_byte (by omega) (by show 128 ≤ _; omega) (by show _ ≤ 191; omega)]
  show (some (64 * (64 * (n / 4096) + n / 64 % 64) + n % 64), bytes) = _
  rw [show 64 * (64 * (n / 4096) + n / 64 % 64) + n % 64 = n by omega]

theorem decodeBytes_four (hl : 65536 ≤ n) (hh : n < 0x110000) :
    decodeBytes (UInt8.ofNat (n / 262144 % 8 + 240) :: UInt8.ofNat (n / 4096 % 64 + 128) ::
      UInt8.ofNat (n / 64 % 64 + 128) :: UInt8.ofNat (n % 64 + 128) :: bytes) =
      some (Char.ofNat n) :: decodeBytes bytes := by
  rw [Nat.mod_eq_of_lt (show n / 262144 < 8 by omega)]
  refine decodeBytes_lead (by omega) (by omega) (lead?_four (by omega)) ?_
  have low : (if n / 262144 = 0 then (0x90 : UInt8) else 0x80).toNat ≤ n / 4096 % 64 + 128 := by
    split
    · show 144 ≤ _
      omega
    · show 128 ≤ _
      omega
  have high : n / 4096 % 64 + 128 ≤ (if n / 262144 = 4 then (0x8F : UInt8) else 0xBF).toNat := by
    split
    · show _ ≤ 143
      omega
    · show _ ≤ 191
      omega
  rw [readFollowing_byte (by omega) low high,
    readFollowing_byte (by omega) (by show 128 ≤ _; omega) (by show _ ≤ 191; omega),
    readFollowing_byte (by omega) (by show 128 ≤ _; omega) (by show _ ≤ 191; omega)]
  show (some (64 * (64 * (64 * (n / 262144) + n / 4096 % 64) + n / 64 % 64) + n % 64), bytes) = _
  rw [show 64 * (64 * (64 * (n / 262144) + n / 4096 % 64) + n / 64 % 64) + n % 64 = n by omega]

end Char

/-- A character is read back, by the number of bytes that it takes. -/
theorem decodeBytes_char (c : Char) (bytes : List UInt8) :
    decodeBytes (String.utf8EncodeChar c ++ bytes) = some c :: decodeBytes bytes := by
  have hvalid := toNat_valid c
  suffices h : decodeBytes (String.utf8EncodeChar c ++ bytes) =
      some (Char.ofNat c.toNat) :: decodeBytes bytes by
    rwa [Char.ofNat_toNat] at h
  rw [String.utf8EncodeChar.eq_1, show c.val.toNat = c.toNat from rfl]
  by_cases h₁ : c.toNat ≤ 127
  · rw [if_pos h₁]
    exact decodeBytes_ascii (by omega) bytes
  rw [if_neg h₁]
  by_cases h₂ : c.toNat ≤ 2047
  · rw [if_pos h₂]
    exact decodeBytes_two bytes (by omega) h₂
  rw [if_neg h₂]
  by_cases h₃ : c.toNat ≤ 65535
  · rw [if_pos h₃]
    exact decodeBytes_three bytes (by omega) h₃ (hvalid.imp_right And.left)
  · rw [if_neg h₃]
    exact decodeBytes_four bytes (by omega) (by omega)

/-! ## Texts -/

theorem decodeBytes_chars (cs : List Char) :
    decodeBytes (cs.flatMap String.utf8EncodeChar) = cs.map some := by
  induction cs with
  | nil => rw [List.flatMap_nil, decodeBytes, List.map_nil]
  | cons c cs ih => rw [List.flatMap_cons, decodeBytes_char, ih, List.map_cons]

theorem toList_byteArray (bs : ByteArray) : bs.toList = bs.data.toList := by
  have loop (k i : Nat) (read : List UInt8) (hk : k = bs.size - i) :
      ByteArray.toList.loop bs i read = read.reverse ++ bs.data.toList.drop i := by
    have length : bs.data.toList.length = bs.size := rfl
    induction k generalizing i read with
    | zero =>
      rw [ByteArray.toList.loop.eq_1, if_neg (by omega), List.drop_eq_nil_of_le (by omega),
        List.append_nil]
    | succ k ih =>
      have hi : i < bs.data.toList.length := by omega
      have hget : bs.get! i = bs.data.toList[i] := getElem!_pos bs.data i hi
      rw [ByteArray.toList.loop.eq_1, if_pos (by omega), ih (i + 1) _ (by omega), hget,
        List.reverse_cons, List.append_assoc, List.drop_eq_getElem_cons hi]
      rfl
  rw [ByteArray.toList.eq_1, loop _ 0 [] rfl]
  rfl

theorem toList_toUTF8 (s : String) : s.toUTF8.toList = s.toList.flatMap String.utf8EncodeChar := by
  rw [toList_byteArray, String.toUTF8_eq_toByteArray, ← String.utf8Encode_toList,
    List.utf8Encode.eq_1, List.toList_data_toByteArray]

/-- A text is read back from its bytes. -/
theorem readUtf8?_toUTF8 (s : String) : readUtf8? s.toUTF8.toList = some s := by
  have whole (cs : List Char) : (cs.map some).mapM (fun unit => unit) = some cs := by
    induction cs with
    | nil => rfl
    | cons c cs ih =>
      rw [List.map_cons, List.mapM_cons, ih]
      rfl
  unfold readUtf8?
  rw [toList_toUTF8, decodeBytes_chars, whole]
  show some (String.ofList s.toList) = _
  rw [String.ofList_toList]

end FleetScaling.Text

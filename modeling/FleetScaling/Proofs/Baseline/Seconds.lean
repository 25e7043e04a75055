import FleetScaling.Proofs.Baseline.Documents
import FleetScaling.Proofs.Json.LongIntegers

/-!
# Seconds as numbers and in texts

The seconds of a metric may be written as a number or in a text. An integer that fits 64 bits means
itself either way. One that does not is refused in a text, while a number becomes the nearest
integer of 64 bits, as does a fraction once it is cut off (`seconds_alike_iff`). A baseline is
decoded from what its metrics are decoded to, so the same holds of a file with the metric at any
place in it.
-/

namespace FleetScaling

open Json Decimal Text

namespace Baseline

/-! ## Places in a document -/

/-- Where in an object a value stands. -/
structure Slot where
  before : Members
  key : Except Fault String
  after : Members
  ending : Ending

/-- The object with a value in its place. -/
def Slot.fill (slot : Slot) (d : Document) : Document :=
  .object (slot.before ++ (slot.key, d) :: slot.after) slot.ending

/-- Where in a document of a baseline the seconds of a metric stand. -/
structure Place where
  instanceType : Slot
  target : Slot
  strategy : Slot
  metric : Slot

/-- The document with the seconds in their place. -/
def Place.fill (place : Place) (d : Document) : Document :=
  place.instanceType.fill (place.target.fill (place.strategy.fill (place.metric.fill d)))

section Places

variable {α : Type} {decoder : Decoder α} {depth : Nat} {slot : Slot} {d d' : Document}

theorem keyedDecoder_fill_congr (h : decoder (depth - 1) d = decoder (depth - 1) d') :
    keyedDecoder decoder depth (slot.fill d) = keyedDecoder decoder depth (slot.fill d') := by
  unfold keyedDecoder Decoder.members Slot.fill nested
  dsimp only
  rw [List.mapM_append, List.mapM_append, List.mapM_cons, List.mapM_cons]
  dsimp only
  rw [h]

theorem keyedDecoder_fill_refused (h : ∀ a, decoder (depth - 1) d ≠ .ok a) (c : Keyed α) :
    keyedDecoder decoder depth (slot.fill d) ≠ .ok c := by
  obtain ⟨before, key, after, ending⟩ := slot
  intro hc
  obtain ⟨values, hvalues, -⟩ := map_eq_ok_iff.1 hc
  obtain ⟨-, _, hmembers, hvalues⟩ := Decoder.members_eq_ok_iff.1 hvalues
  cases hmembers
  -- by induction on the members before it, each of which has a value of its own
  clear hc ‹decoder.members depth _ = _›
  induction before generalizing values with
  | nil => cases hvalues with
    | cons hmember _ => exact h _ hmember.2
  | cons member before ih => cases hvalues with
    | cons _ hvalues => exact ih _ hvalues

theorem decoder_fill_congr (place : Place)
    (h : ∀ depth, secondsDecoder depth d = secondsDecoder depth d') :
    Baseline.decoder depth (place.fill d) = Baseline.decoder depth (place.fill d') :=
  congrArg (Except.map Baseline.mk) (keyedDecoder_fill_congr (keyedDecoder_fill_congr
    (keyedDecoder_fill_congr (keyedDecoder_fill_congr (h _)))))

theorem decoder_fill_refused (place : Place) (h : ∀ depth n, secondsDecoder depth d ≠ .ok n)
    (b : Baseline) : Baseline.decoder depth (place.fill d) ≠ .ok b := by
  intro hb
  obtain ⟨entries, hentries, -⟩ := map_eq_ok_iff.1 hb
  exact keyedDecoder_fill_refused (keyedDecoder_fill_refused (keyedDecoder_fill_refused
    (keyedDecoder_fill_refused (h _)))) _ hentries

end Places

/-! ## One metric -/

/-- Whether an integer has 64 bits. -/
def Fits (n : Int) : Prop := -2 ^ 63 ≤ n ∧ n < 2 ^ 63

/-- The nearest integer of 64 bits. -/
def nearest (n : Int) : Int := max (-2 ^ 63) (min n (2 ^ 63 - 1))

variable {depth : Nat} {n : Int} {k : Int64}

theorem nearest_eq_iff : nearest n = n ↔ Fits n := by
  unfold nearest Fits
  omega

theorem fits_nearest (n : Int) : Fits (nearest n) := by
  unfold nearest Fits
  omega

theorem inRange_of_fits (h : Fits n) : InRange n :=
  inRange_of_lt_two_pow_64 (by unfold Fits at h; omega)

theorem fits_toInt (k : Int64) : Fits k.toInt := ⟨k.le_toInt, k.toInt_lt⟩

theorem text_eq_ok_iff :
    secondsDecoder depth (Value.text (toString n)).document = .ok k ↔ k.toInt = n := by
  have read : secondsDecoder depth (Value.text (toString n)).document =
      (RawSeconds.text (toString n)).toInt64 := rfl
  rw [read]
  unfold RawSeconds.toInt64
  dsimp only
  rw [trimmed_toString_int, readInt64?_toString]
  by_cases hfits : fitsSigned 63 n
  · obtain ⟨hlow, hhigh⟩ := fitsSigned_iff.1 hfits
    rw [if_pos hfits]
    dsimp only
    rw [Except.ok.injEq, ← Int64.toInt_inj, Int64.toInt_ofInt_of_le hlow hhigh]
    exact eq_comm
  · rw [if_neg hfits]
    refine ⟨nofun, fun h => absurd (fitsSigned_iff.2 ?_) hfits⟩
    rw [← h]
    exact fits_toInt k

theorem float_eq_ok_iff {x : Float} : secondsDecoder depth (.number (.ok (.float x))) = .ok k ↔
    ∃ y, BinaryFraction.ofFloat? x = some y ∧ k.toInt = nearest y.truncate := by
  have read : secondsDecoder depth (.number (.ok (.float x))) = (RawSeconds.float x).toInt64 := rfl
  rw [read]
  refine ⟨toInt64_float_eq_ok, ?_⟩
  rintro ⟨y, hy, hk⟩
  unfold RawSeconds.toInt64
  dsimp only
  rw [hy]
  exact congrArg Except.ok (Int64.toInt_inj.1 ((toInt_saturated _).trans hk.symm))

/-- A floating-point number of at least `2 ^ 63` becomes the bound on its side. -/
theorem float_of_within {x : Float} (hx : Within (signOf n) 63 1023 x) (hn : ¬Fits n) :
    secondsDecoder depth (.number (.ok (.float x))) = .ok k ↔ k.toInt = nearest n := by
  obtain ⟨y, m, hy, htruncate, hm⟩ := Within.truncate (k := 63) hx (by decide)
  have same : nearest y.truncate = nearest n := by
    rw [htruncate]
    unfold signOf Fits nearest at *
    split
    · show max _ (min (-(m : Int)) _) = _
      omega
    · show max _ (min (m : Int) _) = _
      omega
  rw [float_eq_ok_iff, ← same]
  constructor
  · rintro ⟨y', hy', hk⟩
    rw [hy] at hy'
    cases hy'
    exact hk
  · exact fun hk => ⟨y, hy, hk⟩

/-- A natural number of more than 63 bits is taken for a floating-point number. -/
theorem natural_of_large {m : Nat} (hm : 2 ^ 63 ≤ m) :
    secondsDecoder depth (.number (.ok (.natural m))) =
      secondsDecoder depth (.number (.ok (.float (Float.ofNat m)))) := by
  have large : ¬ m ≤ largest 63 := by
    have hlargest : largest 63 = 2 ^ 63 - 1 := rfl
    omega
  have judged : RawSeconds.ofDocument? (.number (.ok (.natural m))) =
      some (.float (Float.ofNat m)) := if_neg large
  unfold secondsDecoder Decoder.andThen Decoder.untagged
  rw [judged]
  rfl

/-- An integer that fits means itself. -/
theorem number_of_fits (hn : Fits n) :
    secondsDecoder depth (Value.integer n).document = .ok (Int64.ofInt n) := by
  have back : (Int64.ofInt n).toInt = n := Int64.toInt_ofInt_of_le hn.1 hn.2
  have decoded := decodes_seconds 1 (by decide) (Int64.ofInt n)
  dsimp only at decoded
  rw [back, Value.document] at decoded
  rw [Value.document, ← decoded]
  cases writtenNumber n <;> rfl

/-- An integer that does not fit is taken for a floating-point number, if it is in range. -/
theorem exists_float (hn : ¬Fits n) {v : Number} (h : writtenNumber n = .ok v) :
    ∃ x, Within (signOf n) 63 1023 x ∧ secondsDecoder depth (.number (.ok v)) =
      secondsDecoder depth (.number (.ok (.float x))) := by
  by_cases hlong : n < -2 ^ 63 ∨ 2 ^ 64 ≤ n
  · obtain ⟨x, rfl, hx⟩ := within_of_writtenNumber hlong h
    exact ⟨x, hx, rfl⟩
  · -- a natural number with 64 bits is read as one, and only then taken for another
    obtain ⟨m, rfl, hlow, hhigh⟩ : ∃ m : Nat, n = m ∧ 2 ^ 63 ≤ m ∧ m < 2 ^ 64 := by
      unfold Fits at hn
      exact ⟨n.toNat, by omega, by omega, by omega⟩
    have hlog : 63 ≤ m.log2 ∧ m.log2 < 64 :=
      ⟨(Nat.le_log2 (by omega)).2 hlow, (Nat.log2_lt (by omega)).2 hhigh⟩
    have whole := within_ofNat (n := m) (by omega) hhigh
    rw [writtenNumber_natural hhigh] at h
    cases h
    refine ⟨_, ?_, natural_of_large hlow⟩
    unfold signOf
    rw [if_neg (by omega)]
    exact whole.mono (by omega) (by omega)

theorem number_eq_ok_iff : secondsDecoder depth (Value.integer n).document = .ok k ↔
    InRange n ∧ k.toInt = nearest n := by
  by_cases hn : Fits n
  · have back : (Int64.ofInt n).toInt = n := Int64.toInt_ofInt_of_le hn.1 hn.2
    rw [number_of_fits hn, Except.ok.injEq, ← Int64.toInt_inj, back, nearest_eq_iff.2 hn]
    exact ⟨fun h => ⟨inRange_of_fits hn, h.symm⟩, fun h => h.2.symm⟩
  unfold InRange Value.document
  rcases hwritten : writtenNumber n with fault | v
  · exact ⟨nofun, fun ⟨⟨_, h⟩, _⟩ => nomatch h⟩
  · obtain ⟨x, hx, read⟩ := exists_float hn hwritten
    rw [read, float_of_within hx hn]
    exact ⟨fun h => ⟨⟨v, rfl⟩, h⟩, fun h => h.2⟩

/-! ## Both ways of writing -/

/-- Seconds that are written in two ways are treated alike: both are accepted and mean `n`, or both
are refused. -/
def Alike (n : Int) (number text : Except DecodeError Int64) : Prop :=
  (∃ k, number = .ok k ∧ text = .ok k ∧ k.toInt = n) ∨
    (∀ k, number ≠ .ok k) ∧ ∀ k, text ≠ .ok k

theorem alike_iff : Alike n (secondsDecoder depth (Value.integer n).document)
    (secondsDecoder depth (Value.text (toString n)).document) ↔ Fits n ∨ ¬InRange n := by
  unfold Alike
  simp only [number_eq_ok_iff, text_eq_ok_iff, ne_eq]
  constructor
  · rintro (⟨k, -, hk, -⟩ | ⟨hnumber, -⟩)
    · exact .inl (hk ▸ fits_toInt k)
    · -- the nearest integer of 64 bits would have been accepted
      refine .inr fun hrange => hnumber (Int64.ofInt (nearest n)) ⟨hrange, ?_⟩
      exact Int64.toInt_ofInt_of_le (fits_nearest n).1 (fits_nearest n).2
  · intro h
    by_cases hn : Fits n
    · have back : (Int64.ofInt n).toInt = n := Int64.toInt_ofInt_of_le hn.1 hn.2
      refine .inl ⟨Int64.ofInt n, ⟨inRange_of_fits hn, ?_⟩, back, back⟩
      rw [back, nearest_eq_iff.2 hn]
    · have hrange := h.resolve_left hn
      exact .inr ⟨fun k hk => hrange hk.1, fun k hk => hn (hk ▸ fits_toInt k)⟩

/-- **Seconds as a number and in a text.** An integer in a text is accepted if it fits 64 bits, and
means itself. As a number it is accepted unless it is out of range, and means the nearest integer of
64 bits. So the two are treated alike exactly if the integer fits or is out of range, which none is
below `2 ^ 1020` and all are from `2 ^ 1026` on. A fraction means the integer of 64 bits that is
nearest to it once it is cut off, which is no other exactly if that fits.

At whatever place of a baseline the metric stands, a file with the number is decoded like the one
with the text if the integer fits. Otherwise the text is refused with the whole file, and a number
that is in range is decoded as if the nearest integer had been written. -/
theorem seconds_alike_iff (n : Int) (depth : Nat) :
    (∀ k, secondsDecoder depth (Value.text (toString n)).document = .ok k ↔ k.toInt = n) ∧
    (∀ k, secondsDecoder depth (Value.integer n).document = .ok k ↔
      InRange n ∧ k.toInt = nearest n) ∧
    (Alike n (secondsDecoder depth (Value.integer n).document)
      (secondsDecoder depth (Value.text (toString n)).document) ↔ Fits n ∨ ¬InRange n) ∧
    (n.natAbs < 2 ^ 1020 → InRange n) ∧ (2 ^ 1026 ≤ n.natAbs → ¬InRange n) ∧
    (∀ (x : Float) k, secondsDecoder depth (.number (.ok (.float x))) = .ok k ↔
      ∃ y, BinaryFraction.ofFloat? x = some y ∧ k.toInt = nearest y.truncate ∧
        (k.toInt = y.truncate ↔ Fits y.truncate)) ∧
    ∀ place : Place,
      (Fits n → decoder depth (place.fill (Value.integer n).document) =
        decoder depth (place.fill (Value.text (toString n)).document)) ∧
      (¬Fits n → ∀ b, decoder depth (place.fill (Value.text (toString n)).document) ≠ .ok b) ∧
      (InRange n → decoder depth (place.fill (Value.integer n).document) =
        decoder depth (place.fill (Value.integer (nearest n)).document)) ∧
      (¬InRange n → ∀ b, decoder depth (place.fill (Value.integer n).document) ≠ .ok b) := by
  refine ⟨fun k => text_eq_ok_iff, fun k => number_eq_ok_iff, alike_iff, inRange_of_lt,
    not_inRange_of_le, fun x k => ?_,
    fun place => ⟨fun hn => ?_, fun hn => ?_, fun hrange => ?_, fun hrange => ?_⟩⟩
  · rw [float_eq_ok_iff]
    refine exists_congr fun y => and_congr_right fun _ => ⟨fun hk => ⟨hk, ?_⟩, fun h => h.1⟩
    rw [hk, nearest_eq_iff]
  · refine decoder_fill_congr place fun depth => ?_
    rw [number_of_fits hn, eq_comm, text_eq_ok_iff]
    exact Int64.toInt_ofInt_of_le hn.1 hn.2
  · exact decoder_fill_refused place fun depth k hk => hn (text_eq_ok_iff.1 hk ▸ fits_toInt k)
  · refine decoder_fill_congr place fun depth => ?_
    rw [number_of_fits (fits_nearest n), number_eq_ok_iff]
    exact ⟨hrange, Int64.toInt_ofInt_of_le (fits_nearest n).1 (fits_nearest n).2⟩
  · exact decoder_fill_refused place fun depth k hk => hrange (number_eq_ok_iff.1 hk).1

/-- The characters of a baseline with one combination and the given seconds in it. -/
def withSeconds (written : String) : List Char :=
  ["\x7b\"c5.large\": \x7b\"1000\": \x7b\"best-effort\": \x7b\"scale_up_time_ec2\": ", written,
    ", \"scale_up_time_scheduler\": 420, \"scale_down_time\": 180\x7d\x7d\x7d\x7d"].flatMap
      String.toList

theorem seconds_not_alike_beyond :
    ¬Alike (2 ^ 63) (secondsDecoder depthLimit (Value.integer (2 ^ 63)).document)
      (secondsDecoder depthLimit (Value.text (toString (2 ^ 63 : Int))).document) ∧
    ((decode decoder (String.ofList (withSeconds "9223372036854775808"))).toOption.bind
      fun b => b.lookup "c5.large" 1000 .bestEffort) = some ⟨9223372036854775807, 420, 180⟩ ∧
    (decode decoder (String.ofList (withSeconds "\"9223372036854775808\""))).isOk = false := by
  refine ⟨fun h => ?_, ?_, ?_⟩
  · rcases alike_iff.1 h with hfits | hrange
    · exact absurd hfits.2 (by decide)
    · exact hrange (inRange_of_lt_two_pow_64 (by decide))
  · unfold decode Document.ofText
    rw [String.toList_ofList]
    decide +kernel
  · unfold decode Document.ofText
    rw [String.toList_ofList]
    decide +kernel

end Baseline

end FleetScaling

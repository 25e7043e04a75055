import FleetScaling.Proofs.Text.Digits
import FleetScaling.Proofs.Time.Calendar
import FleetScaling.Time.Rfc3339

/-!
# Instants that were written

Every instant is read back from the text that it is written as (`read_rfc3339`): years of any size
with their sign, fractions in any of their three widths, and leap seconds. The parts of the text are
taken off its front one after another, each with a lemma of its own.
-/

namespace FleetScaling.Time

open FleetScaling.Text

namespace Rfc3339

/-! ## Digits -/

theorem takeWhile_take {ds rest : List Char} (hd : AllDigits ds) (hr : NoDigit rest) {n : Nat}
    (hn : ds.length ≤ n) : ((ds ++ rest).take n).takeWhile Char.isDigit = ds := by
  rw [List.take_append, List.take_of_length_le hn]
  refine takeWhile_digits hd fun c hc => hr c ?_
  cases rest with
  | nil => simp at hc
  | cons d rest =>
    cases h : n - ds.length with
    | zero => simp [h] at hc
    | succ k =>
      rw [h] at hc
      exact hc

/-- Digits are read as far as they go, if there are not more of them than may be read. -/
theorem digits_append {most : Option Nat} {ds rest : List Char} (hd : AllDigits ds)
    (hne : ds ≠ []) (hr : NoDigit rest) (hm : ∀ n ∈ most, ds.length ≤ n)
    (hv : digitsValue 0 ds ≤ Decimal.largest 63) :
    digits most (ds ++ rest) = .ok (digitsValue 0 ds, rest) := by
  have read : (if ds.isEmpty then .error .invalid
      else if digitsValue 0 ds ≤ Decimal.largest 63 then
        .ok (digitsValue 0 ds, (ds ++ rest).drop ds.length)
      else .error .outOfRange : Except InstantError (Nat × List Char)) =
      .ok (digitsValue 0 ds, rest) := by
    rw [if_neg (by simpa using hne), if_pos hv, List.drop_left]
  cases ds with
  | nil => exact absurd rfl hne
  | cons c ds =>
    cases most with
    | none =>
      have run := takeWhile_digits hd hr
      unfold digits
      dsimp only [List.cons_append] at run ⊢
      rw [run]
      exact read
    | some n =>
      have run := takeWhile_take hd hr (hm n rfl)
      unfold digits
      dsimp only [List.cons_append] at run ⊢
      rw [run]
      exact read

theorem padded_ne_nil (width n : Nat) : (padded width n).toList ≠ [] := by
  rw [toList_padded]
  exact List.append_ne_nil_of_right_ne_nil _ Nat.toDigits_ne_nil

/-! ## Fields -/

/-- A number that fills its width is read up to any longer width. -/
theorem digits_padded {most width n : Nat} (hw : 0 < width) (hn : n < Nat.pow 10 width)
    (hm : width ≤ most) (hb : n ≤ Decimal.largest 63) {rest : List Char} (hr : NoDigit rest) :
    digits (some most) ((padded width n).toList ++ rest) = .ok (n, rest) := by
  have hlength := length_padded hw hn
  rw [digits_append (allDigits_padded width n) (padded_ne_nil width n) hr, digitsValue_padded]
  · intro m hmost
    rw [hlength, ← Option.some.inj hmost]
    exact hm
  · rwa [digitsValue_padded]

/-- A field of two digits. -/
theorem field_padded {low high n : Nat} (hn : n < 100) (hl : low ≤ n) (hh : n ≤ high)
    {rest : List Char} (hr : NoDigit rest) :
    field low high ((padded 2 n).toList ++ rest) = .ok (n, rest) := by
  have hlargest : 100 ≤ Decimal.largest 63 := by decide
  unfold field
  rw [dropBlanks_digits (allDigits_padded 2 n) (padded_ne_nil 2 n),
    digits_padded (by decide) hn (Nat.le_refl 2) (by omega) hr]
  exact if_pos ⟨hl, hh⟩

theorem year_of_minus {cs rest : List Char} {n : Nat} (hd : digits none cs = .ok (n, rest))
    (hn : Decimal.fitsSigned 31 (-(n : Int))) : year ('-' :: cs) = .ok (-(n : Int), rest) := by
  unfold year
  rw [dropBlanks_cons (by decide)]
  simp only [hd, Except.map, bind, Except.bind, hn, if_true]

theorem year_of_plus {cs rest : List Char} {n : Nat} (hd : digits none cs = .ok (n, rest))
    (hn : Decimal.fitsSigned 31 n) : year ('+' :: cs) = .ok ((n : Int), rest) := by
  unfold year
  rw [dropBlanks_cons (by decide)]
  simp only [hd, Except.map, bind, Except.bind, hn, if_true]

theorem year_of_digit {c : Char} {cs rest : List Char} {n : Nat} (hc : c.isDigit)
    (hd : digits (some 4) (c :: cs) = .ok (n, rest)) (hn : Decimal.fitsSigned 31 n) :
    year (c :: cs) = .ok ((n : Int), rest) := by
  unfold year
  rw [dropBlanks_cons (isBlank_of_isDigit hc)]
  split
  · rename_i h
    rw [(List.cons.inj h).1] at hc
    exact absurd hc (by decide)
  · rename_i h
    rw [(List.cons.inj h).1] at hc
    exact absurd hc (by decide)
  · simp only [hd, Except.map, bind, Except.bind, hn, if_true]

/-- A year within 32 bits, with its sign. -/
theorem year_yearText {y : Int} (hy : Decimal.fitsSigned 31 y) {rest : List Char}
    (hr : NoDigit rest) : year ((Date.yearText y).toList ++ rest) = .ok (y, rest) := by
  have hbound : y.natAbs ≤ 2 ^ 31 := by
    unfold Decimal.fitsSigned at hy
    have h31 : (Decimal.twoPow 31 : Int) = 2 ^ 31 := rfl
    simp only [Bool.and_eq_true, decide_eq_true_eq] at hy
    omega
  have hlargest : Decimal.largest 63 = 2 ^ 63 - 1 := rfl
  have unbounded {ds : List Char} (hd : AllDigits ds) (hne : ds ≠ [])
      (hv : digitsValue 0 ds = y.natAbs) : digits none (ds ++ rest) = .ok (y.natAbs, rest) := by
    rw [digits_append hd hne hr (fun n h => by cases h) (by omega), hv]
  unfold Date.yearText
  by_cases hneg : y < 0
  · have hnat : -(y.natAbs : Int) = y := by omega
    rw [← hnat] at hy
    rw [if_pos hneg, String.toList_append, List.append_assoc, show "-".toList = ['-'] from rfl,
      List.singleton_append]
    refine (year_of_minus (unbounded (allDigits_padded 4 _) (padded_ne_nil 4 _)
      (digitsValue_padded 4 _)) hy).trans ?_
    rw [hnat]
  have hnat : (y.natAbs : Int) = y := by omega
  rw [← hnat] at hy
  rw [if_neg hneg]
  by_cases hfour : y ≤ 9999
  · have hdigits : digits (some 4) ((padded 4 y.natAbs).toList ++ rest) = .ok (y.natAbs, rest) :=
      digits_padded (by decide) (show y.natAbs < 10000 by omega) (Nat.le_refl 4) (by omega) hr
    obtain ⟨c, ds, hcs⟩ := List.exists_cons_of_ne_nil (padded_ne_nil 4 y.natAbs)
    have hc : c.isDigit := allDigits_padded 4 y.natAbs c (by rw [hcs]; exact List.mem_cons_self)
    rw [if_pos hfour]
    rw [hcs, List.cons_append] at hdigits ⊢
    rw [year_of_digit hc hdigits hy, hnat]
  · rw [if_neg hfour, String.toList_append, List.append_assoc, toList_toString_int, if_neg hneg,
      show "+".toList = ['+'] from rfl, List.singleton_append, List.nil_append]
    refine (year_of_plus (unbounded (allDigits_toDigits _) Nat.toDigits_ne_nil
      (digitsValue_toDigits _)) hy).trans ?_
    rw [hnat]

theorem separator_cons {c : Char} (h : isBlank c = false) (cs : List Char) :
    separator c (c :: cs) = .ok cs := by
  unfold separator
  rw [dropBlanks_cons h]
  exact if_pos rfl

theorem noDigit_cons {c : Char} (h : ¬ c.isDigit) (cs : List Char) : NoDigit (c :: cs) := by
  intro d hd
  cases hd
  exact h

/-- The letter of universal time is no digit. -/
theorem noDigit_zone : NoDigit ['Z'] := noDigit_cons (by decide) []

/-- The digits after the point have the weights of their places. -/
theorem fraction_point {width n : Nat} (hw : 0 < width) (hw9 : width ≤ 9)
    (hn : n < Nat.pow 10 width) :
    fraction (("." ++ padded width n).toList ++ ['Z']) =
      .ok (n * Decimal.tenPow (9 - width), ['Z']) := by
  have hbound : n < Nat.pow 10 9 :=
    Nat.lt_of_lt_of_le hn (Nat.pow_le_pow_right (by decide) hw9)
  have hlargest : Nat.pow 10 9 ≤ Decimal.largest 63 := by decide
  have hplaces : ((padded width n).toList ++ ['Z']).length - ['Z'].length = width := by
    rw [List.length_append, length_padded hw hn, Nat.add_sub_cancel]
  rw [String.toList_append, List.append_assoc, show ".".toList = ['.'] from rfl,
    List.singleton_append]
  unfold fraction
  simp only [digits_padded hw hn hw9 (by omega) noDigit_zone, bind, Except.bind, hplaces]
  rfl

/-- A fraction in nanoseconds, before the letter of universal time. -/
theorem fraction_fractionText {nanos : Nat} (hn : nanos < billion) :
    fraction ((Instant.fractionText nanos).toList ++ ['Z']) = .ok (nanos, ['Z']) := by
  have hbillion : billion = 1000000000 := rfl
  unfold Instant.fractionText
  by_cases h₀ : nanos = 0
  · rw [if_pos h₀, h₀]
    rfl
  rw [if_neg h₀]
  by_cases h₃ : nanos % 1000000 = 0
  · rw [if_pos h₃, fraction_point (by decide) (by decide)
      (show nanos / 1000000 < 1000 by omega),
      show nanos / 1000000 * Decimal.tenPow (9 - 3) = nanos from Nat.div_mul_cancel
        (Nat.dvd_of_mod_eq_zero h₃)]
  rw [if_neg h₃]
  by_cases h₆ : nanos % 1000 = 0
  · rw [if_pos h₆, fraction_point (by decide) (by decide)
      (show nanos / 1000 < 1000000 by omega),
      show nanos / 1000 * Decimal.tenPow (9 - 6) = nanos from Nat.div_mul_cancel
        (Nat.dvd_of_mod_eq_zero h₆)]
  · rw [if_neg h₆, fraction_point (by decide) (by decide) (show nanos < 1000000000 by omega),
      show nanos * Decimal.tenPow (9 - 9) = nanos from Nat.mul_one nanos]

theorem noDigit_fractionText (nanos : Nat) :
    NoDigit ((Instant.fractionText nanos).toList ++ ['Z']) := by
  have point (s : String) : NoDigit (("." ++ s).toList ++ ['Z']) := by
    rw [String.toList_append, List.append_assoc]
    exact noDigit_cons (by decide) _
  unfold Instant.fractionText
  split
  · exact noDigit_cons (by decide) _
  split
  · exact point _
  split
  · exact point _
  · exact point _

/-! ## Instants -/

theorem date_exists (t : Instant) : t.date.Exists := Date.exists_ofDays _

theorem year_bounds (t : Instant) : -262143 ≤ t.date.year ∧ t.date.year ≤ 262142 := by
  have first : (firstSecond : Int) = -8334601228800 := rfl
  have last : (lastSecond : Int) = 8210266876799 := rfl
  have hlow := t.first_le
  have hhigh := t.le_last
  exact Date.year_ofDays (by omega) (by omega)

theorem toNat_secondOfDay (t : Instant) : (t.secondOfDay.toNat : Int) = t.seconds % 86400 := by
  unfold Instant.secondOfDay
  omega

theorem of?_self (t : Instant) : Instant.of? t.seconds t.nanos = some t :=
  dif_pos ⟨t.first_le, t.le_last, t.nanos_lt, t.leap_at_end⟩

/-- The hour, minute, second and nanosecond of an instant on its date; a leap second is the
sixtieth. -/
theorem assembled_parts (t : Instant) :
    let second := t.secondOfDay.toNat
    assembled t.date (second / 3600) (second / 60 % 60)
      (second % 60 + (if t.isLeap then 1 else 0)) (t.nanos % billion) 0 = .ok t := by
  intro second
  have hbillion : billion = 1000000000 := rfl
  have hnanos := t.nanos_lt
  have hdays : t.date.toDays = t.seconds / 86400 := Date.toDays_ofDays _
  have hsecond : (second : Int) = t.seconds % 86400 := toNat_secondOfDay t
  unfold assembled
  rw [if_neg (not_not_intro ⟨date_exists t, year_bounds t⟩), if_neg (by decide), hdays]
  by_cases hleap : billion ≤ t.nanos
  · have hend := t.leap_at_end hleap
    have hnano : t.nanos % billion + billion = t.nanos := by
      rw [hbillion] at hleap hnanos ⊢
      omega
    have hsixty : second % 60 + 1 = 60 := by omega
    rw [show t.isLeap = true from decide_eq_true hleap, if_pos rfl, hsixty]
    dsimp only
    rw [if_pos rfl, if_pos rfl,
      hnano,
      show 86400 * (t.seconds / 86400) + 3600 * ((second / 3600 : Nat) : Int) +
        60 * ((second / 60 % 60 : Nat) : Int) + ((59 : Nat) : Int) - 0 = t.seconds by omega,
      of?_self]
  · have hsixty : ¬ second % 60 + 0 = 60 := by omega
    rw [show t.isLeap = false from decide_eq_false hleap, if_neg Bool.false_ne_true]
    dsimp only
    rw [if_neg hsixty, if_neg hsixty, Nat.mod_eq_of_lt (Nat.not_le.1 hleap), Nat.add_zero t.nanos,
      show 86400 * (t.seconds / 86400) + 3600 * ((second / 3600 : Nat) : Int) +
        60 * ((second / 60 % 60 : Nat) : Int) + ((second % 60 + 0 : Nat) : Int) - 0 = t.seconds
        by omega,
      of?_self]

end Rfc3339

theorem Date.day_le {date : Date} (h : date.Exists) : date.day ≤ 31 := by
  refine Nat.le_trans h.2.2.2 ?_
  unfold daysInMonth
  split
  · split <;> decide
  · split <;> decide

open Rfc3339 in
/-- **Every instant is read back from its text.** -/
theorem Instant.read_rfc3339 (t : Instant) : Instant.read t.rfc3339 = .ok t := by
  let second := t.secondOfDay.toNat
  let fraction := (fractionText (t.nanos % billion)).toList ++ ['Z']
  let seconds := (padded 2 (second % 60 + (if t.isLeap then 1 else 0))).toList ++ fraction
  let minutes := (padded 2 (second / 60 % 60)).toList ++ ':' :: seconds
  let hours := (padded 2 (second / 3600)).toList ++ ':' :: minutes
  let days := (padded 2 t.date.day).toList ++ 'T' :: hours
  let months := (padded 2 t.date.month).toList ++ '-' :: days
  have htext : t.rfc3339.toList = (Date.yearText t.date.year).toList ++ '-' :: months := by
    have dash : "-".toList = ['-'] := rfl
    have colon : ":".toList = [':'] := rfl
    have day : "T".toList = ['T'] := rfl
    have zone : "Z".toList = ['Z'] := rfl
    unfold rfc3339 Date.text timeText clockText
    simp only [String.toList_append, List.append_assoc, dash, colon, day, zone,
      List.cons_append, List.nil_append, months, days, hours, minutes, seconds, fraction, second]
  have hexists := date_exists t
  have hyears := year_bounds t
  have hsecond : second < 86400 := by
    have : (second : Int) = t.seconds % 86400 := toNat_secondOfDay t
    omega
  have hleap : (if t.isLeap then 1 else 0) ≤ 1 := by split <;> decide
  have hyear : Decimal.fitsSigned 31 t.date.year := by
    have h31 : (Decimal.twoPow 31 : Int) = 2147483648 := rfl
    unfold Decimal.fitsSigned
    rw [Bool.and_eq_true, decide_eq_true_eq, decide_eq_true_eq]
    omega
  have hday := Date.day_le hexists
  have dash : ∀ cs, separator '-' ('-' :: cs) = .ok cs := separator_cons (by decide)
  have colon : ∀ cs, separator ':' (':' :: cs) = .ok cs := separator_cons (by decide)
  have readYear : year ((Date.yearText t.date.year).toList ++ '-' :: months) =
      .ok (t.date.year, '-' :: months) := year_yearText hyear (noDigit_cons (by decide) _)
  have readMonth : field 1 12 months = .ok (t.date.month, '-' :: days) :=
    field_padded (by have := hexists.2.1; omega) hexists.1 hexists.2.1 (noDigit_cons (by decide) _)
  have readDay : field 1 31 days = .ok (t.date.day, 'T' :: hours) :=
    field_padded (by omega) hexists.2.2.1 hday (noDigit_cons (by decide) _)
  have readHour : field 0 23 hours = .ok (second / 3600, ':' :: minutes) :=
    field_padded (by omega) (Nat.zero_le _) (by omega) (noDigit_cons (by decide) _)
  have readMinute : field 0 59 minutes = .ok (second / 60 % 60, ':' :: seconds) :=
    field_padded (by omega) (Nat.zero_le _) (by omega) (noDigit_cons (by decide) _)
  have readSecond : field 0 60 seconds =
      .ok (second % 60 + (if t.isLeap then 1 else 0), fraction) :=
    field_padded (by omega) (Nat.zero_le _) (by omega) (noDigit_fractionText _)
  have readNanos : Rfc3339.fraction fraction = .ok (t.nanos % billion, ['Z']) :=
    fraction_fractionText (Nat.mod_lt _ (by decide))
  have readZone : offset (dropBlanks ['Z']) = .ok (0, []) := rfl
  unfold Instant.read
  rw [htext]
  simp only [readYear, dash, readMonth, readDay, readHour, colon, readMinute, readSecond,
    readNanos, readZone, bind, Except.bind]
  exact assembled_parts t

end FleetScaling.Time

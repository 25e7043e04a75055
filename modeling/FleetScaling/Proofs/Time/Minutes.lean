import FleetScaling.Proofs.Scaling.Location
import Mathlib.Data.Prod.Lex
import Mathlib.Order.Bounds.Defs
import Mathlib.Order.Monotone.Defs

/-!
# Minutes

Instants are ordered as they are read: by the second, and within a second by the nanosecond, so a
leap second comes right after the second before it. The start of a minute is the greatest whole
minute that is not after an instant (`isGreatest_startOfMinute`), so a whole minute is its own start
and a later instant has no earlier one. A time that is taken from the start of the minute is at
least the one taken from the instant itself, in whole seconds, and at most a minute more
(`secondsSince_startOfMinute_bounds`).
-/

namespace FleetScaling.Time.Instant

variable {t r m : Instant}

/-! ## The order of instants -/

/-- The second, and the nanosecond in it. -/
def reading (t : Instant) : Int ×ₗ Nat := toLex (t.seconds, t.nanos)

theorem reading_injective : Function.Injective reading := by
  intro a b h
  have h : (a.seconds, a.nanos) = (b.seconds, b.nanos) := toLex.injective h
  cases a
  cases b
  cases h
  rfl

instance : LinearOrder Instant := LinearOrder.lift' reading reading_injective

theorem le_iff {a b : Instant} :
    a ≤ b ↔ a.seconds < b.seconds ∨ (a.seconds = b.seconds ∧ a.nanos ≤ b.nanos) :=
  Prod.Lex.toLex_le_toLex

/-! ## The start of a minute -/

/-- The instant is the beginning of a minute. -/
def IsMinute (t : Instant) : Prop := t.seconds % 60 = 0 ∧ t.nanos = 0

instance : DecidablePred IsMinute := fun t => by unfold IsMinute; infer_instance

theorem isMinute_startOfMinute (t : Instant) : t.startOfMinute.IsMinute := by
  have h : (t.seconds - t.seconds % 60) % 60 = 0 := by omega
  exact ⟨h, rfl⟩

theorem startOfMinute_le (t : Instant) : t.startOfMinute ≤ t := by
  have h : t.seconds - t.seconds % 60 < t.seconds ∨ t.seconds - t.seconds % 60 = t.seconds := by omega
  exact le_iff.2 (h.imp_right fun h => ⟨h, Nat.zero_le _⟩)

/-- A minute that has begun by some instant has begun by the start of the minute of that instant. -/
theorem le_startOfMinute (hm : m.IsMinute) (h : m ≤ t) : m ≤ t.startOfMinute := by
  obtain ⟨hs, hn⟩ := hm
  have hseconds : m.seconds ≤ t.seconds := (le_iff.1 h).elim Int.le_of_lt fun h => Int.le_of_eq h.1
  have hstart : m.seconds < t.seconds - t.seconds % 60 ∨
      m.seconds = t.seconds - t.seconds % 60 := by omega
  exact le_iff.2 (hstart.imp_right fun h => ⟨h, Nat.le_of_eq hn⟩)

theorem isGreatest_startOfMinute (t : Instant) :
    IsGreatest {m | m.IsMinute ∧ m ≤ t} t.startOfMinute :=
  ⟨⟨isMinute_startOfMinute t, startOfMinute_le t⟩, fun _ h => le_startOfMinute h.1 h.2⟩

theorem startOfMinute_of_isMinute (hm : m.IsMinute) : m.startOfMinute = m :=
  le_antisymm (startOfMinute_le m) (le_startOfMinute hm le_rfl)

theorem startOfMinute_startOfMinute (t : Instant) :
    t.startOfMinute.startOfMinute = t.startOfMinute :=
  startOfMinute_of_isMinute (isMinute_startOfMinute t)

theorem startOfMinute_monotone : Monotone startOfMinute := fun a _ h =>
  le_startOfMinute (isMinute_startOfMinute a) ((startOfMinute_le a).trans h)

/-! ## Times from the start of a minute -/

theorem isLeap_startOfMinute (t : Instant) : t.startOfMinute.isLeap = false := rfl

theorem nanosSince_nonneg (ht : t.isLeap = false) (hr : r.isLeap = false) (h : t ≤ r) :
    0 ≤ r.nanosSince t := by
  have := nanos_lt_of_regular ht
  rw [nanosSince_regular hr ht]
  rcases le_iff.1 h with h | ⟨h, h'⟩ <;> unfold billion at * <;> omega

/-- The part of its minute that has passed at an instant. -/
theorem nanosSince_startOfMinute (ht : t.isLeap = false) :
    0 ≤ t.nanosSince t.startOfMinute ∧ t.nanosSince t.startOfMinute < 60 * billion := by
  have hn := nanos_lt_of_regular ht
  rw [nanosSince_regular ht (isLeap_startOfMinute t)]
  show 0 ≤ (t.seconds - (t.seconds - t.seconds % 60)) * billion + ((t.nanos : Int) - (0 : Nat)) ∧
    (t.seconds - (t.seconds - t.seconds % 60)) * billion + ((t.nanos : Int) - (0 : Nat)) < _
  unfold billion at *
  omega

/-- Outside leap seconds, times add up. -/
theorem nanosSince_add (hr : r.isLeap = false) (ht : t.isLeap = false) (hm : m.isLeap = false) :
    r.nanosSince m = r.nanosSince t + t.nanosSince m := by
  rw [nanosSince_regular hr hm, nanosSince_regular hr ht, nanosSince_regular ht hm]
  unfold billion
  omega

theorem secondsSince_of_le (ht : t.isLeap = false) (hr : r.isLeap = false) (h : t ≤ r) :
    r.secondsSince t = r.nanosSince t / billion :=
  Int.tdiv_eq_ediv_of_nonneg (nanosSince_nonneg ht hr h)

/-- **Times from the start of the minute.** They are never negative, never less than the whole
seconds since the instant itself, and at most a minute more. -/
theorem secondsSince_startOfMinute_bounds (ht : t.isLeap = false) (hr : r.isLeap = false)
    (h : t ≤ r) :
    0 ≤ r.secondsSince t.startOfMinute ∧
      r.nanosSince t / billion ≤ r.secondsSince t.startOfMinute ∧
      r.secondsSince t.startOfMinute ≤ r.nanosSince t / billion + 60 := by
  have hnonneg := nanosSince_nonneg ht hr h
  obtain ⟨hlow, hhigh⟩ := nanosSince_startOfMinute ht
  rw [secondsSince_of_le (isLeap_startOfMinute t) hr ((startOfMinute_le t).trans h),
    nanosSince_add hr ht (isLeap_startOfMinute t)]
  unfold billion at *
  omega

end FleetScaling.Time.Instant

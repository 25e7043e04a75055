import FleetScaling.Proofs.Site.Answers
import Mathlib.Algebra.GroupWithZero.Nat
import Mathlib.Algebra.Order.Floor.Div

/-!
# The course of repeated looks

Whoever looks until there is an answer would, left alone, look again and again without end
(`lookAfter`). The looks end with the first that leaves nothing open, or that comes when the time is
up (`lastLooks`, `exists_lastLook`). A look either is that last one (`lookUntil_last`) or is
followed by a wait and the rest of the looks (`lookUntil_more`). By induction over the looks this
says what comes of them all (`lookUntil_course`). Where the world does nothing but count the looks,
its count decides what is seen in each of them and how many there are (`CountedLook.exists_last`,
`CountedLook.course`).
-/

namespace FleetScaling

open Time

variable {ω α β : Type} {interval : Interval} {limit elapsed : Duration}
  {look : SiteOperation ω (Except β α)} {late : Duration → β → SiteOperation ω α} {world : ω}
  {k : Nat}

/-! ## Looks without end -/

/-- The world after some looks. -/
def worldAfterLooks (look : SiteOperation ω (Except β α)) (world : ω) (i : Nat) : ω :=
  (fun world => (look world).world)^[i] world

/-- What comes of the look that follows `i` others. -/
def lookAfter (look : SiteOperation ω (Except β α)) (world : ω) (i : Nat) :
    Trace SiteNote ω (Except β α) := look (worldAfterLooks look world i)

/-- The look went well but gave no answer. -/
def LeftOpen (outcome : Except Failure (Except β α)) : Prop := ∃ seen, outcome = .ok (.error seen)

/-- The looks with which looking may end, `elapsed` having passed before the first: those that leave
nothing open, and those that come when the time is up. -/
def lastLooks (interval : Interval) (limit : Duration) (look : SiteOperation ω (Except β α))
    (elapsed : Duration) (world : ω) : Set Nat :=
  {i | ¬LeftOpen (lookAfter look world i).outcome ∨
    limit.nanos ≤ elapsed.nanos + i * interval.length.nanos}

/-- There is a last look, since the time is up at some look. -/
theorem exists_lastLook (interval : Interval) (limit : Duration)
    (look : SiteOperation ω (Except β α)) (elapsed : Duration) (world : ω) :
    ∃ k, IsLeast (lastLooks interval limit look elapsed world) k := by
  classical
  have late : ∃ i, i ∈ lastLooks interval limit look elapsed world := by
    refine ⟨limit.nanos, Or.inr ?_⟩
    have := Nat.le_mul_of_pos_right limit.nanos interval.pos
    omega
  exact ⟨Nat.find late, Nat.find_spec late, fun i hi => Nat.find_min' late hi⟩

/-- After the first look and a wait, the last one is nearer by one. -/
theorem lastLooks_of_succ (h : IsLeast (lastLooks interval limit look elapsed world) (k + 1)) :
    0 ∉ lastLooks interval limit look elapsed world ∧
      IsLeast (lastLooks interval limit look (elapsed + interval.length) (look world).world) k := by
  have shift (i : Nat) : i ∈ lastLooks interval limit look (elapsed + interval.length)
      (look world).world ↔ i + 1 ∈ lastLooks interval limit look elapsed world := by
    refine or_congr Iff.rfl ?_
    show limit.nanos ≤ elapsed.nanos + interval.length.nanos + _ ↔ _
    rw [Nat.succ_mul]
    omega
  refine ⟨fun h0 => absurd (h.2 h0) (by omega), (shift k).2 h.1, fun i hi => ?_⟩
  exact Nat.le_of_succ_le_succ (h.2 ((shift i).1 hi))

/-! ## One look of many -/

/-- What the last look leads to. -/
def concluded (late : Duration → β → SiteOperation ω α) (elapsed : Duration) :
    Except β α → SiteOperation ω α
  | .ok answer => pure answer
  | .error seen => late elapsed seen

theorem concluded_of_answer {o : Except Failure α} (h : (look world).outcome = o.map .ok) :
    (look >>= concluded late elapsed) world = ⟨o, (look world).world, (look world).notes⟩ := by
  cases o with
  | error failure => exact Operation.bind_of_error h
  | ok answer =>
    refine (Operation.bind_of_ok h).trans ?_
    show Trace.mk _ _ (_ ++ []) = _
    rw [List.append_nil]
    rfl

theorem concluded_of_seen {seen : β} (h : (look world).outcome = .ok (.error seen)) :
    (look >>= concluded late elapsed) world =
      let after := late elapsed seen (look world).world
      ⟨after.outcome, after.world, (look world).notes ++ after.notes⟩ := Operation.bind_of_ok h

theorem lookUntil_last (h : 0 ∈ lastLooks interval limit look elapsed world) :
    lookUntil interval limit look late elapsed world =
      (look >>= concluded late elapsed) world := by
  rw [lookUntil]
  rcases hlook : (look world).outcome with failure | seen | answer
  · rw [Operation.bind_of_error hlook, Operation.bind_of_error hlook]
  · rw [Operation.bind_of_ok hlook, Operation.bind_of_ok hlook]
    have up : limit ≤ elapsed := by
      obtain h | h := h
      · exact absurd ⟨seen, hlook⟩ h
      · show limit.nanos ≤ elapsed.nanos
        omega
    dsimp only
    rw [if_pos up]
    rfl
  · rw [Operation.bind_of_ok hlook, Operation.bind_of_ok hlook]
    rfl

theorem lookUntil_more (h : 0 ∉ lastLooks interval limit look elapsed world) :
    lookUntil interval limit look late elapsed world =
      let rest := lookUntil interval limit look late (elapsed + interval.length) (look world).world
      ⟨rest.outcome, rest.world, (look world).notes ++ .waited interval.length :: rest.notes⟩ := by
  have early : ¬limit ≤ elapsed := fun hle => h (Or.inr (by rwa [Nat.zero_mul]))
  have opened : LeftOpen (look world).outcome := not_not.1 fun hopen => h (Or.inl hopen)
  obtain ⟨seen, hlook⟩ := opened
  rw [lookUntil, Operation.bind_of_ok hlook]
  dsimp only
  rw [if_neg early]
  rfl

/-! ## All looks -/

/-- **The course of repeated looks.** Every look but the last is followed by a wait, and they come to
what the last of them leads to. -/
theorem lookUntil_course (late : Duration → β → SiteOperation ω α)
    (h : IsLeast (lastLooks interval limit look elapsed world) k) :
    lookUntil interval limit look late elapsed world =
      let last := (look >>= concluded late ⟨elapsed.nanos + k * interval.length.nanos⟩)
        (worldAfterLooks look world k)
      ⟨last.outcome, last.world, (List.range k).flatMap (fun i =>
        (lookAfter look world i).notes ++ [.waited interval.length]) ++ last.notes⟩ := by
  induction k generalizing elapsed world with
  | zero =>
    rw [lookUntil_last h.1, Nat.zero_mul]
    rfl
  | succ k ih =>
    obtain ⟨more, next⟩ := lastLooks_of_succ h
    have time : (⟨(elapsed + interval.length).nanos + k * interval.length.nanos⟩ : Duration) =
        ⟨elapsed.nanos + (k + 1) * interval.length.nanos⟩ := by
      show (⟨elapsed.nanos + interval.length.nanos + _⟩ : Duration) = _
      rw [Nat.succ_mul]
      congr 1
      omega
    have rest := ih next
    rw [time] at rest
    rw [lookUntil_more more, rest, List.range_succ_eq_map, List.flatMap_cons, List.flatMap_map]
    simp only [List.append_assoc, List.singleton_append]
    rfl

/-- What was asked for in looks that take no time, and how long was waited between them. -/
theorem requests_between {f : Nat → List SiteNote} {d : Duration}
    (quiet : ∀ i, (totalWait (f i)).nanos = 0) (now k : Nat) :
    let notes := (List.range k).flatMap fun i => f i ++ [.waited d]
    requests now notes = (List.range k).flatMap (fun i => requests (now + i * d.nanos) (f i)) ∧
      (totalWait notes).nanos = k * d.nanos := by
  induction k with
  | zero => exact ⟨rfl, (Nat.zero_mul _).symm⟩
  | succ k ih =>
    have one : (totalWait (f k ++ [.waited d])).nanos = d.nanos := by
      rw [totalWait_append, quiet]
      show 0 + (0 + d.nanos) = _
      omega
    have last : requests (now + k * d.nanos) (f k ++ [.waited d]) =
        requests (now + k * d.nanos) (f k) := by
      rw [requests_append]
      exact List.append_nil _
    simp only [List.range_succ, List.flatMap_append, List.flatMap_singleton]
    constructor
    · rw [requests_append, ih.1, ih.2, last]
    · rw [totalWait_append, ih.2, one, Nat.succ_mul]

/-! ## Looks that are counted -/

/-- A last look that nothing but the time makes the last. -/
def timeUp (interval : Interval) (limit : Duration) : Nat :=
  limit.nanos ⌈/⌉ interval.length.nanos

theorem timeUp_le_iff {c : Nat} :
    timeUp interval limit ≤ c ↔ limit.nanos ≤ c * interval.length.nanos := by
  unfold timeUp
  rw [ceilDiv_le_iff_le_mul interval.pos, Nat.mul_comm]

/-- What comes of looking when the last look has given this, and nothing can be done about a look
that was left open. -/
def settled (failing : β → Failure) : Except Failure (Except β α) → Except Failure α
  | .error failure => .error failure
  | .ok (.ok answer) => .ok answer
  | .ok (.error seen) => .error (failing seen)

section CountedLook

variable {look : SiteOperation Nat (Except β α)} {seen : Nat → Except Failure (Except β α)}
  {notes : List SiteNote}

/-- The world counts the looks, and its count decides what is seen. -/
def CountedLook (look : SiteOperation Nat (Except β α)) (seen : Nat → Except Failure (Except β α))
    (notes : List SiteNote) : Prop := ∀ n, look n = ⟨seen n, n + 1, notes⟩

namespace CountedLook

theorem worldAfterLooks_eq (h : CountedLook look seen notes) (first i : Nat) :
    worldAfterLooks look first i = first + i := by
  induction i with
  | zero => rfl
  | succ i ih =>
    unfold worldAfterLooks at ih ⊢
    rw [Function.iterate_succ_apply', ih, h]
    rfl

theorem lookAfter_eq (h : CountedLook look seen notes) (first i : Nat) :
    lookAfter look first i = ⟨seen (first + i), first + i + 1, notes⟩ := by
  rw [lookAfter, h.worldAfterLooks_eq, h]

/-- A look leads to what was seen in it. -/
theorem concluded_eq (h : CountedLook look seen notes) (failing : Duration → β → Failure)
    (waited : Duration) (n : Nat) :
    (look >>= concluded (fun waited seen => .fail (failing waited seen)) waited) n =
      ⟨settled (failing waited) (seen n), n + 1, notes⟩ := by
  have answered (o : Except Failure α) (ho : seen n = o.map .ok) :
      (look >>= concluded (fun waited seen => .fail (failing waited seen)) waited) n =
        ⟨o, n + 1, notes⟩ := by
    rw [concluded_of_answer (by rw [h]; exact ho), h]
  rcases hn : seen n with failure | b | answer
  · exact answered (.error failure) hn
  · rw [concluded_of_seen (by rw [h]; exact hn), h]
    exact congrArg (Trace.mk _ _) (List.append_nil _)
  · exact answered (.ok answer) hn

/-- The last look is the first that leaves nothing open, unless the time is up before. -/
theorem exists_last (h : CountedLook look seen notes) (interval : Interval) (limit : Duration)
    (first : Nat) : ∃ k ≤ timeUp interval limit, (∀ i < k, LeftOpen (seen (first + i))) ∧
      (¬LeftOpen (seen (first + k)) ∨ k = timeUp interval limit) ∧
      IsLeast (lastLooks interval limit look .zero first) k := by
  have ends (i : Nat) : i ∈ lastLooks interval limit look .zero first ↔
      ¬LeftOpen (seen (first + i)) ∨ timeUp interval limit ≤ i := by
    rw [timeUp_le_iff]
    show ¬LeftOpen (lookAfter look first i).outcome ∨ limit.nanos ≤ 0 + _ ↔ _
    rw [h.lookAfter_eq, Nat.zero_add]
  obtain ⟨k, last⟩ := exists_lastLook interval limit look .zero first
  have hle := last.2 ((ends _).2 (Or.inr (Nat.le_refl _)))
  refine ⟨k, hle, fun i hi => ?_, ?_, last⟩
  · by_contra held
    exact absurd (last.2 ((ends i).2 (Or.inl held))) (Nat.not_le.2 hi)
  · exact ((ends k).1 last.1).imp_right (Nat.le_antisymm hle)

/-- **The course of counted looks.** -/
theorem course (h : CountedLook look seen notes) (failing : Duration → β → Failure)
    {first : Nat} (last : IsLeast (lastLooks interval limit look .zero first) k) :
    lookUntil interval limit look (fun waited seen => .fail (failing waited seen)) .zero first =
      ⟨settled (failing ⟨k * interval.length.nanos⟩) (seen (first + k)), first + k + 1,
        (List.range k).flatMap (fun _ => notes ++ [.waited interval.length]) ++ notes⟩ := by
  have time : Duration.zero.nanos + k * interval.length.nanos = k * interval.length.nanos :=
    Nat.zero_add _
  rw [lookUntil_course _ last, time, h.worldAfterLooks_eq, h.concluded_eq]
  simp only [h.lookAfter_eq]

end CountedLook

end CountedLook

end FleetScaling
